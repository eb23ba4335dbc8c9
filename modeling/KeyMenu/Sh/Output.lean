import KeyMenu.Sh.Calendar
import KeyMenu.Sh.Decimal
import KeyMenu.Sh.Quoting
import KeyMenu.Sh.Reckoning

/-!
# Output commands

The commands that write what they are given: `echo`, and `printf` with its formats. A backslash
introduces a sign that is hard to write; it means something to one of the shells in `echo`, and to
both in a format (`Escape.decode`).
-/

namespace KeyMenu.Sh

/-! ### Signs behind a backslash -/

namespace Escape

/-- The sign that a letter behind a backslash stands for. -/
def letter? (isRich : Bool) : Char → Option Char
  | 'a' => some '\x07'
  | 'b' => some '\x08'
  | 'f' => some '\x0c'
  | 'n' => some '\n'
  | 'r' => some '\r'
  | 't' => some '\t'
  | 'v' => some '\x0b'
  | '\\' => some '\\'
  | 'e' => if isRich then some '\x1b' else none
  | 'E' => if isRich then some '\x1b' else none
  | _ => none

/-- The text with what its backslashes introduce, and whether it is all of the output there will be.
In a format octal numbers have at most three digits and nothing ends the output. Some programs know
more of such signs (`isRich`). -/
def decode (isRich isFormat : Bool) : Nat → Text → Text × Bool
  | 0, t => (t, false)
  | _ + 1, [] => ([], false)
  | fuel + 1, '\\' :: c :: rest =>
      let go (signs rest : Text) : Text × Bool :=
        let (t, ends) := decode isRich isFormat fuel rest
        (signs ++ t, ends)
      if c = 'c' && !isFormat then ([], true)
      else if isRich && isFormat && (c = '"' || c = '\x27' || c = '?') then go [c] rest
      else
        match letter? isRich c with
        | some d => go [d] rest
        | none =>
            let octal := if c = '0' && !isFormat then
                (digitsOf 8 3 rest).or (some (0, rest))
              else digitsOf 8 3 (c :: rest)
            match octal with
            | some (n, rest) => go [Char.ofNat (n % 256)] rest
            | none =>
                let hex := if !isRich then none
                  else if c = 'x' then (digitsOf 16 2 rest).map fun (n, rest) =>
                      ([Char.ofNat n], rest)
                  else if c = 'u' then
                    (digitsOf 16 4 rest).map fun (n, rest) => (octets [Char.ofNat n], rest)
                  else if c = 'U' then
                    (digitsOf 16 8 rest).map fun (n, rest) => (octets [Char.ofNat n], rest)
                  else none
                match hex with
                | some (signs, rest) => go signs rest
                | none => go ['\\', c] rest
  | fuel + 1, c :: rest =>
      let (t, ends) := decode isRich isFormat fuel rest
      (c :: t, ends)

end Escape

/-- A text with what its backslashes introduce. -/
def decoded (isRich : Bool) (t : Text) : Text × Bool := Escape.decode isRich false (t.length + 1) t

/-! ### Plain output -/

/-- The options of `echo` where it has several: whether a line end follows and whether backslashes
introduce signs. -/
def echoOptions (ends decodes : Bool) : List Text → Bool × Bool × List Text
  | ('-' :: c :: letters) :: words =>
      if (c :: letters).all "neE".toList.contains then
        let letters := c :: letters
        let decodes := (letters.filter (· != 'n')).getLast?.elim decodes (· == 'e')
        echoOptions (ends && !letters.contains 'n') decodes words
      else (ends, decodes, ('-' :: c :: letters) :: words)
  | words => (ends, decodes, words)

/-- Writes words with blanks between them. -/
def echo (words : List Text) (s : State) : State :=
  let (ends, decodes, words) :=
    match s.dialect, words with
    | .dash, ['-', 'n'] :: words => (false, true, words)
    | .dash, words => (true, true, words)
    | .bash, words => echoOptions true (s.isOn "xpg_echo") words
  let line := Text.joinWith [' '] words
  let (line, stops) := if decodes then decoded (s.dialect = .bash) line else (line, false)
  s.write (if ends && !stops then line ++ ['\n'] else line)

/-! ### Formats -/

/-- A directive of a format: its signs, its width, its precision and its letter; where a format of
its own stands in brackets it is a time. -/
structure Directive where
  flags : Text
  width : Nat
  precision : Option Nat
  letter : Char
  time : Text

/-- A width or a precision: digits, or a star for an argument, and the arguments after it. -/
def measure (t : Text) (words : List Text) : Option Int × Text × List Text :=
  match t with
  | '*' :: rest => (some ((plainNumber? (words.headD [])).getD 0), rest, words.tail)
  | t =>
      match digitsOf 10 9 t with
      | some (n, rest) => (some n, rest, words)
      | none => (none, t, words)

/-- Reads the directive behind a percent sign; stars take arguments. -/
def Directive.read? (t : Text) (words : List Text) : Option (Directive × Text × List Text) :=
  let isFlag (c : Char) : Bool := "-+ 0#\x27".toList.contains c
  let flags := t.takeWhile isFlag
  let (width, t, words) := measure (t.dropWhile isFlag) words
  let flags := if width.any (· < 0) then '-' :: flags else flags
  let width := (width.getD 0).natAbs
  let (precision, t, words) : Option Nat × Text × List Text := match t with
    | '.' :: t =>
        let (n, t, words) := measure t words
        (if n.any (· < 0) then none else some ((n.getD 0).toNat), t, words)
    | t => (none, t, words)
  let t := t.dropWhile "hlLjzt".toList.contains
  match t with
  | '(' :: t => do
      let (time, t) ← Text.splitFirst [')'] t
      if t.head? = some 'T' then return (⟨flags, width, precision, 'T', time⟩, t.tail,
          words) else none
  | letter :: t => some (⟨flags, width, precision, letter, []⟩, t, words)
  | [] => none

namespace Directive

/-- A text in the width, its letters counted as they are. -/
def padded (d : Directive) (isWide : Bool) (t : Text) : Text :=
  let length := (widened isWide t).length
  let missing := List.replicate (d.width - length) ' '
  if d.flags.contains '-' then t ++ missing else missing ++ t

/-- A number in the width: a sign, what stands in front of the digits, and the digits. -/
def paddedNumber (d : Directive) (allowsZeros : Bool) (sign lead digits : Text) : Text :=
  let missing := d.width - (sign.length + lead.length + digits.length)
  if d.flags.contains '-' then sign ++ lead ++ digits ++ List.replicate missing ' '
  else if d.flags.contains '0' && allowsZeros then
    sign ++ lead ++ List.replicate missing '0' ++ digits
  else List.replicate missing ' ' ++ sign ++ lead ++ digits

/-- The sign of a number that has one. -/
def signOf (d : Directive) (isNegative : Bool) : Text :=
  if isNegative then ['-']
  else if d.flags.contains '+' then ['+']
  else if d.flags.contains ' ' then [' ']
  else []

/-- A whole number written by a letter. -/
def integer (d : Directive) (n : Int) : Text :=
  let unsigned := (n % 18446744073709551616).toNat
  let signed := d.letter = 'd' || d.letter = 'i'
  let magnitude := if signed then n.natAbs else unsigned
  let digits := match d.letter with
    | 'o' => inBase 8 magnitude
    | 'x' => inBase 16 magnitude
    | 'X' => (inBase 16 magnitude).map Char.toUpper
    | _ => inBase 10 magnitude
  let digits := if magnitude = 0 && d.precision = some 0 then [] else digits
  let digits := List.replicate (d.precision.getD 0 - digits.length) '0' ++ digits
  let isMarked := d.flags.contains '#' && magnitude ≠ 0
  let digits := if isMarked && d.letter = 'o' && digits.head? ≠ some '0' then '0' :: digits
    else digits
  let lead := if !isMarked then []
    else if d.letter = 'x' then ['0', 'x'] else if d.letter = 'X' then ['0', 'X'] else []
  d.paddedNumber d.precision.isNone (if signed then d.signOf (n < 0) else []) lead digits

/-- A binary fraction written by a letter. -/
def fraction (d : Directive) (x : Dyadic) : Text :=
  let (isNegative, digits) := x.written d.letter d.precision (d.flags.contains '#')
  let isFinite := match x with | .finite _ _ _ => true | _ => false
  d.paddedNumber isFinite (d.signOf isNegative) [] digits

end Directive

/-- The number that an argument of a format is: a sign behind a quote counts by its number. -/
def formatNumber? (isWide : Bool) : Text → Option Int
  | [] => some 0
  | '\x27' :: rest => some (((widened isWide rest).head?.map Char.toNat).getD 0)
  | '"' :: rest => some (((widened isWide rest).head?.map Char.toNat).getD 0)
  | t => plainNumber? (t.dropWhile fun c => c == ' ' || ('\t' ≤ c && c ≤ '\x0d'))

/-- The digits at the beginning of an argument that is no number as a whole. -/
def leadingNumber (t : Text) : Int :=
  let t := t.dropWhile (· == ' ')
  let (isNegative, digits) := match t with
    | '-' :: digits => (true, digits)
    | '+' :: digits => (false, digits)
    | digits => (false, digits)
  let n : Int := match digits with
    | '0' :: 'x' :: hex => ((digitsOf 16 32 hex).map Prod.fst).getD 0
    | '0' :: octal => ((digitsOf 8 32 octal).map Prod.fst).getD 0
    | digits => ((digitsOf 10 32 digits).map Prod.fst).getD 0
  if isNegative then -n else n

/-- A number within 64 bits, and whether it was. -/
def clamped (isSigned : Bool) (n : Int) : Int × Bool :=
  let low : Int := -9223372036854775808
  let high : Int := if isSigned then 9223372036854775807 else 18446744073709551615
  if n < low then (low, false) else if high < n then (high, false) else (n, true)

/-- Who writes by a format: the bits of its fractions, the signs that it knows, and what time it
is. -/
structure Writer where
  dialect : Dialect
  isRich : Bool
  isWide : Bool
  bits : Nat
  now : Int
  zone : Zone

namespace Directive

/-- What a directive makes of an argument: the text, whether the argument suits it, and whether
nothing more is written; there is nothing if it is none. -/
def written? (d : Directive) (w : Writer) (argument : Text) : Option (Text × Bool × Bool) :=
  let plain (t : Text) : Option (Text × Bool × Bool) := some (t, true, false)
  let number (isSigned : Bool) : Option (Text × Bool × Bool) :=
    let n := formatNumber? w.isWide argument
    let (m, fits) := clamped isSigned (n.getD (leadingNumber argument))
    some (d.integer m, n.isSome && fits, false)
  let cut (t : Text) : Text := match d.precision with
    | some n => if w.isWide then octets ((widened true t).take n) else t.take n
    | none => t
  let decimal : Option (Text × Bool × Bool) :=
    match argument with
    | [] => some (d.fraction (.finite false 0 0), true, false)
    | '\x27' :: c :: _ => some (d.fraction (.finite false c.toNat 0), true, false)
    | '"' :: c :: _ => some (d.fraction (.finite false c.toNat 0), true, false)
    | t =>
        match Dyadic.read? w.bits true (t.dropWhile (· == ' ')) with
        | some (x, rest) => some (d.fraction x, rest.isEmpty, false)
        | none => some (d.fraction (.finite false 0 0), false, false)
  match d.letter with
  | 's' => plain (d.padded w.isWide (cut argument))
  | 'q' => if w.dialect = .bash then plain (d.padded w.isWide (backslashQuote argument)) else none
  | 'Q' => if w.dialect = .bash
      then plain (d.padded w.isWide (backslashQuote (cut argument))) else none
  | 'c' => plain (d.padded false (argument.take 1))
  | 'b' =>
      let (t, ends) := decoded w.isRich argument
      some (d.padded w.isWide (cut t), true, ends)
  | 'd' => number true
  | 'i' => number true
  | 'u' => number false
  | 'o' => number false
  | 'x' => number false
  | 'X' => number false
  | 'e' => decimal
  | 'E' => decimal
  | 'f' => decimal
  | 'F' => decimal
  | 'g' => decimal
  | 'G' => decimal
  | 'T' =>
      if w.dialect = .dash then none
      else
        let n := (formatNumber? w.isWide argument).getD 0
        let at' := if argument.isEmpty || n < 0 then w.now else n
        let format := if d.time.isEmpty then "%X".toList else d.time
        plain (d.padded false ((Moment.ofSeconds w.zone at' 0).written format))
  | _ => none

end Directive

/-- What has been written by a format: the text, the arguments that are left, whether an argument
did not suit, whether a directive is none and whether nothing more is to be written. -/
structure Formatted where
  text : Text
  rest : List Text
  suits : Bool
  isSound : Bool
  ends : Bool

/-- Writes once by a format, with enough fuel for its length. -/
def formatted (w : Writer) : Nat → Text → List Text → Formatted
  | 0, _, words => ⟨[], words, true, true, false⟩
  | _ + 1, [], words => ⟨[], words, true, true, false⟩
  | fuel + 1, '%' :: '%' :: rest, words =>
      let f := formatted w fuel rest words
      { f with text := '%' :: f.text }
  | fuel + 1, '%' :: rest, words =>
      match (Directive.read? rest words).bind fun (d, rest, words) =>
          (d.written? w (words.headD [])).map (·, rest, words) with
      | none => ⟨[], words, true, false, false⟩
      | some ((t, suits, ends), rest, words) =>
          if ends then ⟨t, [], suits, true, true⟩
          else
            let f := formatted w fuel rest words.tail
            { f with text := t ++ f.text, suits := suits && f.suits }
  | fuel + 1, '\\' :: rest, words =>
      let used := match rest with
        | 'x' :: _ => 4
        | 'u' :: _ => 6
        | 'U' :: _ => 10
        | c :: _ => if '0' ≤ c && c ≤ '7' then
            2 + (((rest.drop 1).take 2).takeWhile fun c => '0' ≤ c && c ≤ '7').length
          else 2
        | [] => 1
      let whole := ('\\' :: rest).take used
      let whole := if 2 < used && !(rest.head?.any fun c => '0' ≤ c && c ≤ '7') then
          whole.take 2 ++ (whole.drop 2).takeWhile (digitValue · < 16)
        else whole
      let (t, _) := Escape.decode w.isRich true (whole.length + 1) whole
      let f := formatted w fuel (rest.drop (whole.length - 1)) words
      { f with text := t ++ f.text }
  | fuel + 1, c :: rest, words =>
      let f := formatted w fuel rest words
      { f with text := c :: f.text }

/-- Writes by a format until its arguments are used up. -/
def formattedAll (w : Writer) (format : Text) : Nat → List Text → Formatted
  | 0, words => ⟨[], words, true, true, false⟩
  | fuel + 1, words =>
      let f := formatted w (format.length + 1) format words
      if f.rest.isEmpty || f.rest.length = words.length || !f.isSound || f.ends then f
      else
        let more := formattedAll w format fuel f.rest
        { more with text := f.text ++ more.text, suits := f.suits && more.suits }

namespace State

/-- The zone whose clocks are shown. -/
def zone (s : State) : Zone := ((s.value? "TZ".toList).map Zone.ofText).getD .universal

/-- The shell as one that writes by formats. -/
def writer (s : State) : Writer :=
  ⟨s.dialect, s.dialect = .bash, s.shellIsWide, if s.dialect = .bash then 64 else 53,
    s.world.now / World.second, s.zone⟩

end State

/-- Writes by a format. -/
def printf (words : List Text) (s : State) : State :=
  match if words.head? = some ['-', '-'] then words.tail else words with
  | [] => s.withStatus 2
  | format :: words =>
      let f := formattedAll s.writer format (words.length + 1) words
      let written := s.write f.text
      if !f.isSound then written.refuse
      else if f.suits then written
      else written.withStatus 1

end KeyMenu.Sh
