import KeyMenu.Sh.Calendar.Reader
import KeyMenu.Sh.Condition
import KeyMenu.Sh.Naming
import KeyMenu.Sh.Quoting
import KeyMenu.Sh.Regular.Reader
import KeyMenu.Sh.Tool.Look

/-!
# Programs for values

Programs that calculate with their words (`calculate`, `countUp`), take paths and options apart,
tell the time, and know about the machine and its user.
-/

namespace KeyMenu.Sh

/-! ### Calculating with words -/

/-- Why words have no value: they make no sense, a number is missing, or is zero where it may not
be. -/
inductive TermFault
  | missing
  | unexpected (t : Text)
  | noNumber
  | divisionByZero
  | noExpression

/-- The wording of a fault. -/
def TermFault.message : TermFault → Text
  | .missing => "syntax error: missing argument".toList
  | .unexpected t => "syntax error: unexpected argument ".toList ++ inQuotes t
  | .noNumber => "non-integer argument".toList
  | .divisionByZero => "division by zero".toList
  | .noExpression => "Invalid regular expression".toList

namespace Term

/-- The number that a word is. -/
def number? (t : Text) : Option Int :=
  match t with
  | '-' :: digits => if digits.isEmpty || !digits.all Char.isDigit then none
      else some (-(digitsValue digits : Int))
  | digits => if digits.isEmpty || !digits.all Char.isDigit then none
      else some (digitsValue digits)

/-- A word stands for nothing: it is empty or zero. -/
def isNothing (t : Text) : Bool :=
  let digits := if t.head? = some '-' then t.tail else t
  t.isEmpty || (!digits.isEmpty && digits.all (· == '0'))

/-- The part of a text that an expression takes in from its beginning, or how long it is. -/
def matched (isWide : Bool) (t source : Text) : Except TermFault Text :=
  match Regular.ofText? (.ofStyle .basic) (widened isWide source) with
  | none => .error .noExpression
  | some r =>
      let wide := widened isWide t
      let hasGroup := 0 < r.groupCount
      match r.fitAt? true wide (.at wide 0) with
      | none => .ok (if hasGroup then [] else ['0'])
      | some f =>
          if hasGroup then .ok (narrowed isWide ((f.group? wide 1).getD []))
          else .ok (Text.ofNat f.stop)

/-- The order of two words: of numbers if both are some. -/
def compared (sign a b : Text) : Bool :=
  let (isLess, isSame) := match number? a, number? b with
    | some m, some n => (decide (m < n), decide (m = n))
    | _, _ => (comesBefore a b, decide (a = b))
  match String.ofList sign with
  | "<" => isLess
  | "<=" => isLess || isSame
  | "=" => isSame
  | "==" => isSame
  | "!=" => !isSame
  | ">=" => !isLess
  | _ => !isLess && !isSame

/-- The signs between words, those that bind least first. -/
def signs : List (List String) :=
  [["|"], ["&"], ["<", "<=", "=", "==", "!=", ">=", ">"], ["+", "-"], ["*", "/", "%"], [":"]]

/-- What a sign makes of two words. -/
def applied (isWide : Bool) (sign a b : Text) : Except TermFault Text :=
  let numbers (f : Int → Int → Except TermFault Int) : Except TermFault Text :=
    match number? a, number? b with
    | some m, some n => do return Text.ofInt (← f m n)
    | _, _ => .error .noNumber
  match String.ofList sign with
  | "|" => .ok (if !isNothing a then a else if !isNothing b then b else ['0'])
  | "&" => .ok (if isNothing a || isNothing b then ['0'] else a)
  | "+" => numbers fun m n => .ok (m + n)
  | "-" => numbers fun m n => .ok (m - n)
  | "*" => numbers fun m n => .ok (m * n)
  | "/" => numbers fun m n => if n = 0 then .error .divisionByZero else .ok (Int.tdiv m n)
  | "%" => numbers fun m n => if n = 0 then .error .divisionByZero else .ok (Int.tmod m n)
  | ":" => matched isWide a b
  | _ => .ok (if compared sign a b then ['1'] else ['0'])

/-- Where some signs of a text stand first, counted from one on. -/
def indexOf (t signs : Text) : Nat :=
  ((t.findIdx? signs.contains).map (· + 1)).getD 0

/-- A part of a text. -/
def part (isWide : Bool) (t start length : Text) : Text :=
  match number? start, number? length with
  | some n, some count =>
      if n ≤ 0 || count ≤ 0 then []
      else narrowed isWide (((widened isWide t).drop (n.toNat - 1)).take count.toNat)
  | _, _ => []

mutual

/-- The value of words up to a sign of a level, and the words that are left. Where it does not
count, it is not worked out. -/
def level (isWide counts : Bool) : Nat → List (List String) → List Text →
    Except TermFault (Text × List Text)
  | 0, _, _ => .error .missing
  | fuel + 1, [], words => atom isWide counts fuel words
  | fuel + 1, signs :: levels, words => do
      let (a, rest) ← level isWide counts fuel levels words
      more isWide counts fuel signs levels a rest

/-- Goes on behind a value with the signs of a level. -/
def more (isWide counts : Bool) : Nat → List String → List (List String) → Text → List Text →
    Except TermFault (Text × List Text)
  | 0, _, _, a, words => .ok (a, words)
  | _ + 1, _, _, a, [] => .ok (a, [])
  | fuel + 1, signs, levels, a, sign :: words =>
      if !signs.any (·.toList == sign) then .ok (a, sign :: words)
      else do
        let isNeeded := if sign = ['|'] then isNothing a
          else if sign = ['&'] then !isNothing a else true
        let (b, rest) ← level isWide (counts && isNeeded) fuel levels words
        let value ← if counts then applied isWide sign a b else .ok a
        more isWide counts fuel signs levels value rest

/-- One word, what a word does with those behind it, or words in brackets. -/
def atom (isWide counts : Bool) : Nat → List Text → Except TermFault (Text × List Text)
  | 0, _ => .error .missing
  | _ + 1, [] => .error .missing
  | fuel + 1, word :: words =>
      let next (words : List Text) : Except TermFault (Text × List Text) :=
        atom isWide counts fuel words
      match String.ofList word with
      | "+" =>
          match words with
          | [] => .error .missing
          | word :: words => .ok (word, words)
      | "length" => do
          let (t, rest) ← next words
          return (Text.ofNat (widened isWide t).length, rest)
      | "match" => do
          let (t, rest) ← next words
          let (source, rest) ← next rest
          let found ← if counts then matched isWide t source else .ok t
          return (found, rest)
      | "index" => do
          let (t, rest) ← next words
          let (signs, rest) ← next rest
          return (Text.ofNat (indexOf (widened isWide t) (widened isWide signs)), rest)
      | "substr" => do
          let (t, rest) ← next words
          let (start, rest) ← next rest
          let (length, rest) ← next rest
          return (part isWide t start length, rest)
      | "(" => do
          let (t, rest) ← level isWide counts fuel signs words
          match rest with
          | [')'] :: rest => return (t, rest)
          | [] => .error .missing
          | word :: _ => .error (.unexpected word)
      | ")" => .error (.unexpected word)
      | _ => .ok (word, words)

end

/-- The value of words. -/
def value? (isWide : Bool) (words : List Text) : Except TermFault Text := do
  let (t, rest) ← level isWide true (20 * (words.length + 2)) signs words
  match rest with
  | [] => return t
  | word :: _ => .error (.unexpected word)

end Term

/-- Calculates with words; the program fails where there is nothing. -/
def calculate : Tool := fun words s =>
  let words := if words.head? = some ['-', '-'] then words.tail else words
  if words = ["--help".toList] || words = ["--version".toList] then s.write "expr\n".toList
  else if words.isEmpty then s.missOperand "expr" 2
  else
    match Term.value? s.isWide words with
    | .error fault => s.complain 2 "expr".toList fault.message
    | .ok t => (s.withStatus (if Term.isNothing t then 1 else 0)).put (t ++ ['\n'])

/-! ### Counting -/

/-- A number with a fraction: all its digits as one number, and how many of them stand behind the
point. -/
structure Decimal where
  digits : Int
  places : Nat

namespace Decimal

/-- Reads a number. -/
def ofText? (t : Text) : Option Decimal :=
  let (isNegative, t) := match t with
    | '-' :: t => (true, t)
    | '+' :: t => (false, t)
    | t => (false, t)
  let signed (n : Nat) : Int := if isNegative then -(n : Int) else n
  match t with
  | '0' :: x :: hex =>
      if (x = 'x' || x = 'X') && !hex.isEmpty then
        (digitsOf 16 16 hex).bind fun (n, rest) => if rest.isEmpty then some ⟨signed n, 0⟩ else none
      else plain signed ('0' :: x :: hex)
  | t => plain signed t
where
  /-- Digits with a point and an exponent. -/
  plain (signed : Nat → Int) (t : Text) : Option Decimal :=
    match Dyadic.digitsRead? 10 t with
    | none => none
    | some (n, places, rest) =>
        let (e, after) := Dyadic.exponentRead 'e' rest
        if !after.isEmpty then none
        else if 0 ≤ e then
          let more := min e.toNat 40
          some ⟨signed (n * tenTo (more - places)), places - more⟩
        else some ⟨signed n, places + (min (-e).toNat 40)⟩

/-- The number with more places. -/
def inPlaces (d : Decimal) (places : Nat) : Int := d.digits * (tenTo (places - d.places) : Nat)

/-- A number with so many places as a text that is at least so wide. -/
def written (n : Int) (places width : Nat) : Text :=
  let digits := inWidth (places + 1) n.natAbs
  let whole := digits.take (digits.length - places)
  let t := whole ++ if places = 0 then [] else '.' :: digits.drop (digits.length - places)
  let sign := if n < 0 then ['-'] else []
  sign ++ List.replicate (width - sign.length - t.length) '0' ++ t

end Decimal

/-- The only directive of a format, with what stands in front of it and behind it. -/
def singleDirective? (format : Text) : Except Text (Text × Directive × Text) :=
  let rec go : Nat → Text → Text → Except Text (Text × Directive × Text)
    | 0, _, _ => .error "format".toList
    | _ + 1, _, [] => .error ("format ".toList ++ inQuotes format ++ " has no % directive".toList)
    | fuel + 1, before, '%' :: '%' :: rest => go fuel (before ++ ['%']) rest
    | _ + 1, before, '%' :: rest =>
        match Directive.read? rest [] with
        | none => .error ("format ".toList ++ inQuotes format ++ " ends in %".toList)
        | some (d, after, _) =>
            if !"eEfFgGaA".toList.contains d.letter then
              .error ("format ".toList ++ inQuotes format ++
                " has unknown %".toList ++ [d.letter] ++
                " directive".toList)
            else if ((Text.splitFirst ['%', '%'] after).isNone && after.contains '%') then
              .error ("format ".toList ++ inQuotes format ++ " has too many % directives".toList)
            else .ok (before, d, withoutDoubled after)
    | fuel + 1, before, c :: rest => go fuel (before ++ [c]) rest
  go (format.length + 1) [] format
where
  /-- Doubled percent signs stand for one. -/
  withoutDoubled : Text → Text
    | '%' :: '%' :: rest => '%' :: withoutDoubled rest
    | c :: rest => c :: withoutDoubled rest
    | [] => []

/-- Counts from a number to another one. -/
def countUp : Tool := fun words s =>
  let who := "seq".toList
  let isNumber (w : Text) : Bool := match w with
    | '-' :: c :: _ => c.isDigit || c == '.'
    | _ => false
  let options := words.takeWhile (!isNumber ·)
  let words := if options.length = words.length then words
    else options ++ ['-', '-'] :: words.drop options.length
  match Given.ofWords ⟨"f:s:w", ["equal-width=w", "format=f", "separator=s"], true⟩ words with
  | .error message => s.complain 1 who message
  | .ok g =>
      let operands := g.operands.filter (· != ['-', '-'])
      if g.hasLong "help" || g.hasLong "version" then s.write "seq\n".toList
      else if operands.isEmpty then s.missOperand "seq" 1
      else if 3 < operands.length then s.complain 1 who "extra operand".toList
      else
        match operands.find? fun t => (Decimal.ofText? t).isNone with
        | some t => s.complain 1 who ("invalid floating point argument: ".toList ++ inQuotes t)
        | none =>
            let one : Decimal := ⟨1, 0⟩
            let number (n : Nat) : Decimal := ((operands[n]?).bind Decimal.ofText?).getD one
            let (first, step, last) := match operands.length with
              | 1 => (one, one, number 0)
              | 2 => (number 0, one, number 1)
              | _ => (number 0, number 1, number 2)
            if step.digits = 0 then
              s.complain 1 who "invalid Zero increment value: \x270\x27".toList
            else
              let places := max first.places step.places
              let fine := max places last.places
              let low := first.inPlaces fine
              let by' := step.inPlaces fine
              let high := last.inPlaces fine
              let count := if 0 < by' then (high - low) / by' + 1 else (low - high) / (-by') + 1
              let values := (List.range count.toNat).map fun (n : Nat) => low + by' * (n : Int)
              let shown (n : Int) (width : Nat) : Text :=
                Decimal.written (n / ((tenTo (fine - places) : Nat) : Int)) places width
              let separator := (g.value? 's').getD ['\n']
              let texts? : Except Text (List Text) := match g.value? 'f' with
                | some format => do
                    let (before, d, after) ← singleDirective? format
                    return values.map fun n =>
                      let x := Dyadic.ofQuotient 64 (n < 0) n.natAbs (tenTo fine)
                      before ++ d.fraction x ++ after
                | none =>
                    let width := if g.has 'w' then
                        max (shown low 0).length
                          (shown (values.getLast?.getD low) 0).length
                      else 0
                    .ok (values.map fun n => shown n width)
              match texts? with
              | .error message => s.complain 1 who message
              | .ok [] => s.withStatus 0
              | .ok texts => s.write (Text.joinWith separator texts ++ ['\n'])

/-- The prime factors of a number from a divisor on. -/
def factorsFrom : Nat → Nat → Nat → List Nat
  | 0, _, n => if 1 < n then [n] else []
  | fuel + 1, d, n =>
      if n < d * d then (if 1 < n then [n] else [])
      else if n % d = 0 then d :: factorsFrom fuel d (n / d)
      else factorsFrom fuel (if d = 2 then 3 else d + 2) n

/-- Shows the prime factors of numbers. -/
def showFactors : Tool := optioned "factor" "h" ["exponents=h"] 1 fun g s =>
  let (s, words) := if g.operands.isEmpty then
      let (s, t) := s.readAll
      (s, ((t.map fun c => if c = '\n' || c = '\t' then ' ' else c) |> splitAt ' ').filter
        (!·.isEmpty))
    else (s, g.operands)
  words.foldl (fun s word =>
    let digits := if word.head? = some '+' then word.tail else word
    if digits.isEmpty || !digits.all Char.isDigit then
      s.complain 1 "factor".toList (inQuotes word ++ " is not a valid positive integer".toList)
    else
      let n := digitsValue digits
      let factors := if n = 0 then [] else factorsFrom 3000000 2 n
      let shown := if g.has 'h' then
          (factors.splitBy (· == ·)).map fun group =>
            let n := Text.ofNat (group.headD 0)
            if group.length = 1 then n else n ++ '^' :: Text.ofNat group.length
        else factors.map Text.ofNat
      s.put (Text.ofNat n ++ ':' :: shown.flatMap (' ' :: ·) ++ ['\n'])) s

/-- The factor for which a letter behind a number stands, where that is known. -/
def unitFactor? (scale : Text) (letter : Option Char) : Option Nat :=
  match letter with
  | none => some 1
  | some c =>
      let c := if c = 'k' then 'K' else c
      match "KMGTPEZY".toList.findIdx? (· == c) with
      | none => none
      | some n => some (Nat.pow (if scale = "si".toList then 1000 else 1024) (n + 1))

/-- A number in so many thousands, with a letter; what is left over is rounded up. -/
def inUnits (scale : Text) (n : Int) : Text :=
  let base := if scale = "si".toList then 1000 else 1024
  let ending := if scale = "iec-i".toList then ['i'] else []
  let sign := if n < 0 then ['-'] else []
  let m := n.natAbs
  let rec go : Nat → Nat → Nat → Text
    | 0, _, _ => []
    | fuel + 1, power, unit =>
        let whole := (m + unit - 1) / unit
        if base ≤ whole && power < 8 then go fuel (power + 1) (unit * base)
        else if power = 0 then Text.ofNat m
        else
          let tenths := (10 * m + unit - 1) / unit
          let t := if tenths < 100 then Text.ofNat (tenths / 10) ++ '.' :: Text.ofNat (tenths % 10)
            else Text.ofNat whole
          t ++ (("KMGTPEZY".toList[power - 1]?).toList) ++ ending
  sign ++ go 10 0 1

/-- Writes numbers in other units. -/
def convertNumbers : Tool := fun words s =>
  let words := words.map fun w => match w with
    | '-' :: c :: rest => if c.isDigit then ' ' :: '-' :: c :: rest else w
    | w => w
  optioned "numfmt" "d:z" ["delimiter=d", "field:", "format:", "from:", "from-unit:", "grouping",
    "header?", "invalid:", "padding:", "round:", "suffix:", "to:", "to-unit:", "zero-terminated=z",
    "debug"] 1 (fun g s =>
    let scaleOf (name : String) : Text := (g.longValue? name).getD "none".toList
    let source := scaleOf "from"
    let target := scaleOf "to"
    let suffix := (g.longValue? "suffix").getD []
    let isBad (scale : Text) : Bool :=
      !(["none", "auto", "si", "iec", "iec-i"].any (·.toList == scale))
    if isBad source || isBad target then
      s.complain 1 "numfmt".toList "invalid argument for option".toList
    else
      let convert (t : Text) : Option Text :=
        let t := t.dropWhile (· == ' ')
        let t := if !suffix.isEmpty && suffix.isSuffixOf t
            then t.take (t.length - suffix.length) else t
        let body := t.takeWhile fun c => c.isDigit || c == '.' || c == '-' || c == '+'
        let rest := t.drop body.length
        let isTwo := rest.length = 2 && rest[1]? = some 'i'
        match Decimal.ofText? body, (rest.length ≤ 1 || isTwo) with
        | some d, true =>
            if source = "none".toList && !rest.isEmpty then none
            else
              let scale := if isTwo || (source ≠ "auto".toList) then source else "si".toList
              (unitFactor? scale rest.head?).bind fun factor =>
                let unit := ((g.longValue? "from-unit").bind sizeOf?).getD 1
                let n := d.digits * (factor * unit : Nat)
                let whole := if target = "none".toList then
                    let places := if rest.isEmpty then d.places else 0
                    if places = 0 then Text.ofInt (-(-n / ((tenTo d.places : Nat) : Int)))
                    else Decimal.written n places 0
                  else
                    let unit := ((g.longValue? "to-unit").bind sizeOf?).getD 1
                    inUnits target (n / ((tenTo d.places * unit : Nat) : Int))
                some (whole ++ suffix)
        | _, _ => none
      let padding := ((g.longValue? "padding").bind (numberIn? 10)).getD 0
      let padded (t : Text) : Text :=
        if 0 ≤ padding then rightIn padding.toNat t else leftIn padding.natAbs t
      let one (s : State) (line : Text) : State :=
        let field := ((g.longValue? "field").map digitsValue).getD 1
        let delimiter := ((g.value? 'd').bind List.head?).getD ' '
        let parts := splitAt delimiter line
        match convert ((parts[field - 1]?).getD []) with
        | some t => s.put (Text.joinWith [delimiter] (parts.set (field - 1) (padded t)) ++ ['\n'])
        | none => s.complain 2 "numfmt".toList ("invalid number: ".toList ++ inQuotes line)
      if g.operands.isEmpty then
        let (s, t) := s.readAll
        (textLines t).foldl one s
      else g.operands.foldl one s) words s

/-! ### Paths and options -/

/-- The last names of paths. -/
def baseNames : Tool := fun words s =>
  match Given.ofWords ⟨"as:z", ["multiple=a", "suffix=s", "zero=z"], true⟩ words with
  | .error message => s.complain 1 "basename".toList message
  | .ok g =>
      let limit := if g.has 'z' then '\x00' else '\n'
      let without (suffix t : Text) : Text :=
        if suffix.isSuffixOf t && suffix.length < t.length
            then t.take (t.length - suffix.length) else t
      let isMany := g.has 'a' || g.has 's'
      if g.hasLong "help" || g.hasLong "version" then s.write "basename\n".toList
      else
        match g.operands, isMany with
        | [], _ => s.missOperand "basename" 1
        | names, true =>
            let suffix := (g.value? 's').getD []
            s.write (names.flatMap fun name => without suffix (baseName name) ++ [limit])
        | [name], false => s.write (baseName name ++ [limit])
        | [name, suffix], false => s.write (without suffix (baseName name) ++ [limit])
        | _, false => s.complain 1 "basename".toList "extra operand".toList

/-- The directories of paths. -/
def directoryNames : Tool := optioned "dirname" "z" ["zero=z"] 1 fun g s =>
  if g.operands.isEmpty then s.missOperand "dirname" 1
  else s.put (g.operands.flatMap fun path =>
    directoryName path ++ [if g.has 'z' then '\x00' else '\n'])

/-- Tells whether paths could be those of files everywhere. -/
def checkPaths : Tool := optioned "pathchk" "pP" ["portability"] 1 fun g s =>
  if g.operands.isEmpty then s.missOperand "pathchk" 1
  else
    let portable (c : Char) : Bool := c.isAlphanum || "._-/".toList.contains c
    let isStrict := g.has 'p' || g.hasLong "portability"
    let isGood (path : Text) : Bool :=
      let parts := splitAt '/' path
      !path.isEmpty && path.length < 4096 && parts.all (·.length ≤ 255) &&
        (!isStrict || (path.all portable && parts.all (·.length ≤ 14) && path.length < 256)) &&
        (!(g.has 'P' || g.hasLong "portability") || parts.all (·.head? ≠ some '-')) &&
        (isStrict || match s.inodeAt false path with
          | .error .notADirectory => false
          | _ => true)
    s.withStatus (if g.operands.all isGood then 0 else 1)

/-- An option with its value as a shell reads it. -/
def optionText (isPlain : Bool) (t : Text) : Text := ' ' :: if isPlain then t else singleQuote t

/-- What options are allowed: letters, with colons behind those that have values, and long names in
the same way. -/
structure Allowed where
  letters : Text
  long : List Text
  isAlone : Bool
  isPlain : Bool
  stopsEarly : Bool

namespace Allowed

/-- How many colons stand behind a letter, if it is allowed. -/
def colons? (a : Allowed) (c : Char) : Option Nat :=
  match a.letters.dropWhile (· != c) with
  | _ :: ':' :: ':' :: _ => some 2
  | _ :: ':' :: _ => some 1
  | _ :: _ => if c = ':' then none else some 0
  | [] => none

/-- A long name and how many colons stand behind it. -/
def entry (t : Text) : Text × Nat :=
  let name := t.takeWhile (· != ':')
  (name, t.length - name.length)

/-- The long name that is meant. -/
def long? (a : Allowed) (start : Text) : Option (Text × Nat) :=
  let entries := a.long.map entry
  match entries.find? (·.1 == start) with
  | some found => some found
  | none =>
      match entries.filter (start.isPrefixOf ·.1) with
      | [found] => some found
      | _ => none

/-- The letters behind a dash: the text for them, whether all is well, and the words that are
left. -/
def bundle (a : Allowed) : Text → List Text → Text × Bool × List Text
  | [], words => ([], true, words)
  | c :: rest, words =>
      match a.colons? c with
      | none =>
          let (t, _, words) := bundle a rest words
          (t, false, words)
      | some 0 =>
          let (t, isGood, words) := bundle a rest words
          ([' ', '-', c] ++ t, isGood, words)
      | some n =>
          match rest, words with
          | [], word :: words =>
              if n = 2 then ([' ', '-', c] ++ optionText a.isPlain [], true, word :: words)
              else ([' ', '-', c] ++ optionText a.isPlain word, true, words)
          | [], [] => if n = 2 then ([' ', '-', c] ++ optionText a.isPlain [], true, [])
              else ([], false, [])
          | rest, words => ([' ', '-', c] ++ optionText a.isPlain rest, true, words)

/-- Words with the options in front, as a text, and whether all is well. -/
def arranged (a : Allowed) : Nat → List Text → Text × List Text × Bool
  | 0, words => ([], words, true)
  | _ + 1, [] => ([], [], true)
  | fuel + 1, word :: words =>
      let long (start : Text) (words : List Text) : Text × List Text × Bool :=
        let (name, value) := match Text.splitFirst ['='] start with
          | some (name, value) => (name, some value)
          | none => (start, none)
        let unknown : Text × List Text × Bool :=
          let (t, rest, _) := arranged a fuel words
          (t, rest, false)
        match a.long? name with
        | none => unknown
        | some (name, colons) =>
            let head := " --".toList ++ name
            match colons, value, words with
            | 0, some _, _ => unknown
            | 0, none, words =>
                let (t, rest, isGood) := arranged a fuel words
                (head ++ t, rest, isGood)
            | 1, none, [] => unknown
            | 1, none, value :: words =>
                let (t, rest, isGood) := arranged a fuel words
                (head ++ optionText a.isPlain value ++ t, rest, isGood)
            | _, value, words =>
                let (t, rest, isGood) := arranged a fuel words
                (head ++ optionText a.isPlain (value.getD []) ++ t, rest, isGood)
      match word with
      | ['-', '-'] => ([], words, true)
      | '-' :: '-' :: start => long start words
      | '-' :: c :: rest =>
          if a.isAlone && (a.long? (c :: rest)).isSome then long (c :: rest) words
          else
            let (first, isFine, words) := a.bundle (c :: rest) words
            let (t, others, isGood) := arranged a fuel words
            (first ++ t, others, isFine && isGood)
      | word =>
          if a.stopsEarly then ([], word :: words, true)
          else
            let (t, rest, isGood) := arranged a fuel words
            (t, word :: rest, isGood)

end Allowed

/-- Puts options in front of other words. -/
def arrangeOptions : Tool := fun words s =>
  let who := "getopt".toList
  let show' (a : Allowed) (isQuiet : Bool) (words : List Text) (s : State) : State :=
    let (t, rest, isGood) := a.arranged (words.length + 1) words
    let out := t ++ " --".toList ++ rest.flatMap (optionText a.isPlain) ++ ['\n']
    let s := if isQuiet then s.withStatus 0 else s.write out
    if isGood then s else s.complain 1 who "invalid option".toList
  match words with
  | [] => s.complain 2 who "missing optstring argument".toList
  | first :: rest =>
      if first.head? ≠ some '-' then
        let letters := if first.head? = some '+' then first.tail else first
        show' ⟨letters, [], false, true, first.head? = some '+'⟩ false
          (if rest.head? = some ['-', '-'] then rest.tail else rest) s
      else
        match Given.ofWords ⟨"al:n:o:qQs:TuhV", ["alternative=a", "longoptions=l",
            "name=n", "options=o",
            "quiet=q", "quiet-output=Q", "shell=s", "test=T", "unquoted=u"], true⟩ words with
        | .error message => s.complain 2 who message
        | .ok g =>
            if g.has 'T' then s.withStatus 4
            else if g.hasLong "help" || g.has 'h' || g.has 'V' || g.hasLong "version" then
              s.write "getopt\n".toList
            else
              let (letters?, words) := match g.value? 'o', g.operands with
                | some letters, words => (some letters, words)
                | none, letters :: words => (some letters, words)
                | none, [] => (none, [])
              match letters? with
              | none => s.complain 2 who "missing optstring argument".toList
              | some letters =>
                  let stops := letters.head? = some '+'
                  let letters := if stops || letters.head? = some '-' then letters.tail else letters
                  let long := (g.values 'l').flatMap fun t =>
                    ((splitAt ',' t).flatMap (splitAt ' ')).filter (!·.isEmpty)
                  show' ⟨letters, long, g.has 'a', g.has 'u', stops⟩ (g.has 'Q') words s

/-! ### Time -/

/-- Waits. -/
def sleep : Tool := optioned "sleep" "" [] 1 fun g s =>
  if g.operands.isEmpty then s.missOperand "sleep" 1
  else
    match g.operands.mapM duration? with
    | none => s.complain 1 "sleep".toList "invalid time interval".toList
    | some times => s.pass (times.foldl (· + ·) 0)

/-- The format of a time that is asked for by name. -/
def dateFormat (g : Given) : Text :=
  let full := "%Y-%m-%d".toList
  match g.value? 'I', g.longValue? "rfc-3339" with
  | some kind, _ => match String.ofList kind with
      | "hours" => "%Y-%m-%dT%H%:z".toList
      | "minutes" => "%Y-%m-%dT%H:%M%:z".toList
      | "seconds" => "%Y-%m-%dT%H:%M:%S%:z".toList
      | "ns" => "%Y-%m-%dT%H:%M:%S,%N%:z".toList
      | _ => full
  | none, some kind => match String.ofList kind with
      | "seconds" => "%Y-%m-%d %H:%M:%S%:z".toList
      | "ns" => "%Y-%m-%d %H:%M:%S.%N%:z".toList
      | _ => full
  | none, none => if g.has 'R' then "%a, %d %b %Y %H:%M:%S %z".toList
      else "%a %b %e %H:%M:%S %Z %Y".toList

/-- Tells the time. -/
def tellTime : Tool := optioned "date" "d:f:I?r:Rs:u" ["date=d", "file=f", "iso-8601=I",
    "reference=r",
    "rfc-email=R", "rfc-2822=R", "rfc-3339:", "set=s", "universal=u", "utc=u", "debug",
    "resolution"] 1 fun g s =>
  let who := "date".toList
  let zone := if g.has 'u' then Zone.universal else s.zone
  let invalid (t : Text) : State := s.complain 1 who ("invalid date ".toList ++ inQuotes t)
  let format? : Except Text Text := match g.operands with
    | [] => .ok (dateFormat g)
    | ['+' :: format] => .ok format
    | [t] => .error t
    | _ => .error []
  let now := s.world.now
  let shown (format : Text) (seconds : Int) (part : Nat) : Text :=
    (Moment.ofSeconds zone seconds part).written format ++ ['\n']
  match format? with
  | .error t => if t.isEmpty then s.complain 1 who "extra operand".toList else invalid t
  | .ok format =>
      let read (t : Text) : Option (Int × Nat) :=
        Moment.read? zone (now / World.second) (Int.emod now World.second).toNat t
      match g.value? 'd', g.value? 'r', g.value? 'f', g.value? 's' with
      | some t, _, _, _ =>
          match read t with
          | some (seconds, part) => s.write (shown format seconds part)
          | none => invalid t
      | none, some path, _, _ =>
          match s.inodeAt true path with
          | .ok n =>
              let time := (s.world.store.inode n).modified
              s.write (shown format (time / World.second) (Int.emod time World.second).toNat)
          | .error fault => s.complain 1 who (path ++ ": ".toList ++ fault.message)
      | none, none, some path, _ =>
          let (s, t) := s.gatherAll "date" 1 [path]
          (textLines t).foldl (fun s line => match read line with
            | some (seconds, part) => s.put (shown format seconds part)
            | none => s.complain 1 who ("invalid date ".toList ++ inQuotes line)) s
      | none, none, none, some t =>
          if (read t).isSome then s.complain 1 who "cannot set date: Operation not permitted".toList
          else invalid t
      | _, _, _, _ => s.write (shown format (now / World.second) (Int.emod now World.second).toNat)

/-! ### The machine and its user -/

/-- Shows variables. -/
def showVariables : Tool := optioned "printenv" "0" ["null=0"] 2 fun g s =>
  let limit := if g.has '0' then '\x00' else '\n'
  if g.operands.isEmpty then
    s.put (s.environment.flatMap fun (name, value) => name ++ '=' :: value ++ [limit])
  else
    let found := g.operands.filterMap (Table.get? s.environment ·)
    let s := s.put (found.flatMap (· ++ [limit]))
    if found.length = g.operands.length then s else s.withStatus 1

/-- Shows where programs lie. -/
def showPlaces : Tool := optioned "which" "as" ["all=a"] 2 fun g s =>
  let found := g.operands.map s.placesOf
  let s := s.put (found.flatMap fun places =>
    (if g.has 'a' then places else places.take 1).flatMap (· ++ ['\n']))
  if !g.operands.isEmpty && found.all (!·.isEmpty) then s else s.withStatus 1

/-- Tells who the user is. -/
def showUser : Tool := optioned "id" "aGgnruZz" ["group=g", "groups=G", "name=n",
    "real=r", "user=u",
    "zero=z", "context=Z"] 1 fun g s =>
  let who := "id".toList
  let kinds := (if g.has 'g' then 1 else 0) + (if g.has 'G' then 1 else 0) +
    (if g.has 'u' then 1 else 0)
  if g.has 'Z' then s.complain 1 who "--context (-Z) works only on an SELinux-enabled kernel".toList
  else if 1 < kinds then s.complain 1 who "cannot print \x22only\x22 of more than one choice".toList
  else if kinds = 0 && (g.has 'n' || g.has 'r') then
    s.complain 1 who "cannot print only names or real IDs in default format".toList
  else if kinds = 0 && g.has 'z' then
    s.complain 1 who "option --zero not permitted in default format".toList
  else
    let limit := if g.has 'z' then '\x00' else '\n'
    let names := if g.operands.isEmpty then ["root".toList] else g.operands
    names.foldl (fun s name =>
      match userNumber? name with
      | none => s.complain 1 who (inQuotes name ++ ": no such user".toList)
      | some n =>
          let shown := userName n
          let number := Text.ofNat n
          if kinds = 0 then
            let pair (label : String) : Text := label.toList ++ '=' :: number ++
                '(' :: shown ++ [')']
            s.put (pair "uid" ++ ' ' :: pair "gid" ++ ' ' :: pair "groups" ++ ['\n'])
          else s.put ((if g.has 'n' then shown else number) ++ [limit])) s

/-- Tells the groups of users. -/
def showGroups : Tool := optioned "groups" "" [] 1 fun g s =>
  if g.operands.isEmpty then s.put "root\n".toList
  else
    g.operands.foldl (fun s name =>
      if (userNumber? name).isSome then s.put (name ++ " : ".toList ++ name ++ ['\n'])
      else s.complain 1 "groups".toList (inQuotes name ++ ": no such user".toList)) s

/-- Tells about the machine. -/
def showMachine : Tool := optioned "uname" "amnoprsvi" ["all=a", "machine=m", "nodename=n",
    "operating-system=o", "processor=p", "kernel-release=r", "kernel-name=s", "kernel-version=v",
    "hardware-platform=i", "sysname=s", "release=r"] 1 fun g s =>
  if !g.operands.isEmpty then s.complain 1 "uname".toList "extra operand".toList
  else
    let parts : List (Char × String) := [('s', "Linux"), ('n', "localhost"), ('r', "6.1.0"),
      ('v', "#1 SMP"), ('m', "x86_64"), ('p', "x86_64"), ('i', "x86_64"), ('o', "GNU/Linux")]
    let chosen := if g.has 'a' then parts
      else if g.options.isEmpty then parts.take 1 else parts.filter fun (c, _) => g.has c
    s.put (Text.joinWith [' '] (chosen.map fun (_, t) => t.toList) ++ ['\n'])

/-- A program that tells one thing and takes no operands. -/
def tells (name letters : String) (long : List String) (t : String) : Tool :=
  optioned name letters long 1 fun g s =>
    if g.operands.isEmpty then s.put (t.toList ++ if t.isEmpty then [] else ['\n'])
    else s.complain 1 name.toList "extra operand".toList

/-- Tells the terminal: there is none. -/
def showTerminal : Tool := optioned "tty" "s" ["silent=s", "quiet=s"] 2 fun g s =>
  if !g.operands.isEmpty then s.complain 2 "tty".toList "extra operand".toList
  else (if g.has 's' then s else s.put "not a tty\n".toList).withStatus 1

/-- Writes lines for as long as somebody reads them. -/
def repeatedly : Tool := fun words s =>
  let words := if words.head? = some ['-', '-'] then words.tail else words
  let line := (if words.isEmpty then ['y'] else Text.joinWith [' '] words) ++ ['\n']
  let count := 140000 / line.length + 1
  (s.write (List.replicate count line).flatten).endless

/-- Writes by a format. -/
def writeFormat : Tool := fun words s =>
  if words.isEmpty then s.missOperand "printf" 1
  else
    let after := printf words { s with dialect := .bash }
    { after with dialect := s.dialect }

/-- Sends signals. -/
def signalProcesses : Tool := fun words s =>
  if words.isEmpty then s.complain 1 "kill".toList "not enough arguments".toList
  else
    let after := kill words { s with dialect := .bash }
    { after with dialect := s.dialect }

/-- Writes what has to be written onto the disk. -/
def synchronize : Tool := optioned "sync" "df" ["data=d", "file-system=f"] 1 fun g s =>
  g.operands.foldl (fun s path => match s.inodeAt true path with
    | .ok _ => s
    | .error fault => s.complain 1 "sync".toList ("error opening ".toList ++ inQuotes path ++
        ": ".toList ++ fault.message)) s

/-- Needs a terminal, and there is none. -/
def needTerminal (name : String) (n : Int) : Tool := fun _ s =>
  s.complain n name.toList "\x27standard input\x27: Inappropriate ioctl for device".toList

/-- What has not been told is not needed. -/
example : (Term.value? false (["0", "&", "1", "/", "0"].map String.toList)).toOption = some ['0'] :=
    by
  decide +kernel

end KeyMenu.Sh
