import KeyMenu.Sh.Regular.Reader
import KeyMenu.Sh.Tool.Line

/-!
# Programs for bytes

Programs that take their input as bytes: they exchange some of them for others (`translate`), show
them as numbers (`dump`), or cut the input in pieces that go into files of their own (`split`,
`splitAtLines`).
-/

namespace KeyMenu.Sh

/-! ### Exchanging bytes -/

/-- A part of a set of bytes: some of them in their order, one of the classes in which case counts,
or a byte that is repeated as often as there is room. -/
inductive ByteRun
  | bytes (t : Text)
  | cased (isCapital : Bool) (t : Text)
  | filled (c : Char)

/-- The byte that is spelled at the beginning of a text, and what follows. -/
def spelledByte : Text → Option (Char × Text)
  | [] => none
  | '\\' :: rest =>
      let octal := (rest.take 3).takeWhile fun c => '0' ≤ c && c ≤ '7'
      if !octal.isEmpty then
        let n := octal.foldl (fun n c => 8 * n + (c.toNat - 48)) 0
        if n < 256 then some (Char.ofNat n, rest.drop octal.length)
        else some (Char.ofNat (n / 8), rest.drop 2)
      else
        match rest with
        | [] => some ('\\', [])
        | c :: rest =>
            let meant := match c with
              | 'a' => '\x07'
              | 'b' => '\x08'
              | 'f' => '\x0c'
              | 'n' => '\n'
              | 'r' => '\r'
              | 't' => '\t'
              | 'v' => '\x0b'
              | c => c
            some (meant, rest)
  | c :: rest => some (c, rest)

/-- All bytes. -/
def allBytes : Text := (List.range 256).map Char.ofNat

/-- The bytes from one to another. -/
def bytesBetween (a b : Char) : Text :=
  (List.range (b.toNat + 1 - a.toNat)).map fun n => Char.ofNat (a.toNat + n)

/-- Reads a set of bytes; the message says what is wrong with it. -/
def byteRuns? : Nat → Text → Except Text (List ByteRun)
  | 0, _ => .ok []
  | _ + 1, [] => .ok []
  | fuel + 1, t => do
      let named : Option (Text × Text) := match t with
        | '[' :: ':' :: rest => Text.splitFirst ":]".toList rest
        | _ => none
      let same : Option (Text × Text) := match t with
        | '[' :: '=' :: rest => Text.splitFirst "=]".toList rest
        | _ => none
      match named, same with
      | some (name, rest), _ =>
          match classes.find? (·.1 == name) with
          | none => .error ("invalid character class ".toList ++ inQuotes name)
          | some (_, ranges) =>
              let members := allBytes.filter fun c => c.toNat < 128 && Mark.isIn ranges c
              let part := if name = "upper".toList then ByteRun.cased true members
                else if name = "lower".toList then .cased false members
                else .bytes members
              return part :: (← byteRuns? fuel rest)
      | none, some ([c], rest) => return .bytes [c] :: (← byteRuns? fuel rest)
      | none, some (name, _) =>
          .error (name ++ ": equivalence class operand must be a single character".toList)
      | none, none =>
          let repeated : Option (Char × Text × Text) := match t with
            | '[' :: inner =>
                match spelledByte inner with
                | some (c, '*' :: more) =>
                    (Text.splitFirst [']'] more).bind fun (digits, rest) =>
                      if digits.all Char.isDigit then some (c, digits, rest) else none
                | _ => none
            | _ => none
          match repeated with
          | some (c, digits, rest) =>
              let base := if digits.head? = some '0' then 8 else 10
              let count := ((numberIn? base digits).getD 0).toNat
              let part := if count = 0 then ByteRun.filled c else .bytes (List.replicate count c)
              return part :: (← byteRuns? fuel rest)
          | none =>
              match spelledByte t with
              | none => .ok []
              | some (c, '-' :: d :: rest) =>
                  match spelledByte (d :: rest) with
                  | some (last, rest) =>
                      if last.toNat < c.toNat then
                        .error ("range-endpoints of \x27".toList ++ [c, '-', last] ++
                          "\x27 are in reverse collating sequence order".toList)
                      else return .bytes (bytesBetween c last) :: (← byteRuns? fuel rest)
                  | none => .ok []
              | some (c, rest) => return .bytes [c] :: (← byteRuns? fuel rest)

namespace ByteRun

/-- The bytes of a part, where there is room for so many more. -/
def text (room : Nat) : ByteRun → Text
  | .bytes t => t
  | .cased _ t => t
  | .filled c => List.replicate room c

/-- The bytes of all parts; a repeated byte fills up to so many. -/
def all (count : Nat) (parts : List ByteRun) : Text :=
  let known := (parts.flatMap (·.text 0)).length
  parts.flatMap (·.text (count - known))

/-- The part is a class in which case counts. -/
def isCased : ByteRun → Bool
  | .cased _ _ => true
  | _ => false

/-- The part is a byte that is repeated. -/
def isFilled : ByteRun → Bool
  | .filled _ => true
  | _ => false

end ByteRun

/-- What each byte of a set is exchanged for; a letter of a class goes to the same letter of the
other one. -/
def exchanges (cuts : Bool) (left right : List ByteRun) : List (Char × Char) :=
  let cased (c : Char) (isCapital : Bool) : Char := if isCapital then c.toUpper else c.toLower
  let rec go : List ByteRun → List ByteRun → List (Char × Char)
    | .cased _ t :: left, .cased isCapital _ :: right =>
        t.map (fun c => (c, cased c isCapital)) ++ go left right
    | left, right =>
        let before := left.takeWhile (!·.isCased)
        let count := (before.flatMap (·.text 0)).length
        let all := left.flatMap (·.text 0)
        let rights := ByteRun.all (if right.any (·.isCased) then count else all.length) right
        let padded := if cuts then rights else
          rights ++ List.replicate (all.length - rights.length) (rights.getLast?.getD ' ')
        all.zip padded
  go left right

/-- Runs of the same byte are shown as one. -/
def squeezed (set : Text) : Option Char → Text → Text
  | _, [] => []
  | last, c :: rest =>
      if last = some c && set.contains c then squeezed set last rest
      else c :: squeezed set (some c) rest

/-- A table that tells for each byte what it is exchanged for; the last pair counts. -/
def exchangeTable (pairs : List (Char × Char)) : Array Char :=
  pairs.foldl (fun table (a, b) => table.modify a.toNat fun _ => b) allBytes.toArray

/-- Exchanges bytes of the input for others, or leaves some out. -/
def translate : Tool := fun words s =>
  let who := "tr".toList
  match Given.ofWords ⟨"cCdst", ["complement=c", "delete=d", "squeeze-repeats=s",
      "truncate-set1=t"],
      true⟩ words with
  | .error message => s.complain 1 who message
  | .ok g =>
      let turned := g.has 'c' || g.has 'C'
      let deletes := g.has 'd'
      let squeezes := g.has 's'
      let least := if deletes == squeezes then 2 else 1
      let most := if deletes && !squeezes then 1 else 2
      if g.hasLong "help" || g.hasLong "version" then s.write "tr\n".toList
      else if g.operands.length < least then s.missOperand "tr" 1
      else if most < g.operands.length then s.complain 1 who "extra operand".toList
      else
        let read (n : Nat) : Except Text (List ByteRun) :=
          byteRuns? 100000 ((g.operands[n]?).getD [])
        match read 0, read 1 with
        | .error message, _ => s.complain 1 who message
        | _, .error message => s.complain 1 who message
        | .ok left, .ok right =>
            let set (parts : List ByteRun) : Text := parts.flatMap (·.text 0)
            let from' := if turned then allBytes.filter (!(set left).contains ·) else set left
            let hasTwo := 1 < g.operands.length
            let translates := hasTwo && !deletes
            let isPlainClass (parts : List ByteRun) : Bool :=
              ((g.operands[1]?).bind (Text.splitFirst "[:".toList)).isSome && parts.all (!·.isCased)
            if left.any (·.isFilled) then
              s.complain 1 who "the [c*] repeat construct may not appear in string1".toList
            else if 1 < right.countP (·.isFilled) then
              s.complain 1 who "only one [c*] repeat construct may appear in string2".toList
            else if translates && right.isEmpty && !g.has 't' && !from'.isEmpty then
              s.complain 1 who
                "when not truncating set1, string2 must be non-empty".toList
            else if translates && isPlainClass right &&
                ((g.operands[1]?).bind (Text.splitFirst ":]".toList)).isSome then
              s.complain 1 who ("when translating, the only character classes that may appear in\n"
                ++
                "string2 are \x27upper\x27 and \x27lower\x27").toList
            else if translates && right.any (·.isCased) &&
                (turned || left.countP (·.isCased) < right.countP (·.isCased)) then
              s.complain 1 who "misaligned [:upper:] and/or [:lower:] construct".toList
            else
              let pairs :=
                if !translates then []
                else if turned then
                  let rights := ByteRun.all from'.length right
                  let padded := if g.has 't' then rights else rights ++
                    List.replicate (from'.length - rights.length) (rights.getLast?.getD ' ')
                  from'.zip padded
                else exchanges (g.has 't') left right
              let table := exchangeTable pairs
              let (s, t) := s.readAll
              let t := if deletes then t.filter (!from'.contains ·)
                else t.map fun c => (table[c.toNat]?).getD c
              let t := if squeezes then
                  squeezed (if hasTwo then ByteRun.all from'.length right else from') none t
                else t
              s.put t

/-! ### Numbers of bytes -/

/-- How bytes are shown: the letter of the form, how many of them make one number, and whether they
are shown as they are at the end of a line. -/
structure DumpForm where
  letter : Char
  size : Nat
  showsText : Bool

namespace DumpForm

/-- The forms that a text names. -/
def ofText? : Nat → Text → Option (List DumpForm)
  | 0, _ => none
  | _ + 1, [] => some []
  | fuel + 1, c :: rest => do
      let (size, rest) ← match c, rest with
        | 'a', rest => some (1, rest)
        | 'c', rest => some (1, rest)
        | 'f', 'F' :: rest => some (4, rest)
        | 'f', 'D' :: rest => some (8, rest)
        | 'f', '4' :: rest => some (4, rest)
        | 'f', '8' :: rest => some (8, rest)
        | 'f', rest => some (8, rest)
        | c, rest =>
            if !"doux".toList.contains c then none
            else
              match rest with
              | 'C' :: rest => some (1, rest)
              | 'S' :: rest => some (2, rest)
              | 'I' :: rest => some (4, rest)
              | 'L' :: rest => some (8, rest)
              | rest =>
                  match digitsOf 10 3 rest with
                  | none => some (4, rest)
                  | some (n, rest) => if [1, 2, 4, 8].any (· == n) then some (n, rest) else none
      let (showsText, rest) := if rest.head? = some 'z' then (true, rest.tail) else (false, rest)
      return ⟨c, size, showsText⟩ :: (← ofText? fuel rest)

/-- The width of a number with the blank in front of it. -/
def width (f : DumpForm) : Nat :=
  let place : Nat := match f.size with
    | 1 => 0
    | 2 => 1
    | 4 => 2
    | _ => 3
  let widths : List Nat := match f.letter with
    | 'o' => [3, 6, 11, 22]
    | 'x' => [2, 4, 8, 16]
    | 'u' => [3, 5, 10, 20]
    | 'd' => [4, 6, 11, 20]
    | 'f' => [15, 15, 15, 24]
    | _ => [3, 3, 3, 3]
  (widths[place]?).getD 3 + 1

/-- The names of the bytes that are no signs to be seen. -/
def names : List String :=
  ["nul", "soh", "stx", "etx", "eot", "enq", "ack", "bel", "bs", "ht", "nl", "vt", "ff", "cr", "so",
    "si", "dle", "dc1", "dc2", "dc3", "dc4", "nak", "syn", "etb", "can", "em", "sub", "esc", "fs",
    "gs", "rs", "us", "sp"]

/-- One number or sign. -/
def shown (f : DumpForm) (bytes : Text) : Text :=
  let n := bytes.foldr (fun c n => c.toNat + 256 * n) 0
  let zeros (base : Nat) : Text :=
    let t := inBase base n
    List.replicate (f.width - 1 - t.length) '0' ++ t
  match f.letter with
  | 'o' => zeros 8
  | 'x' => zeros 16
  | 'u' => Text.ofNat n
  | 'd' =>
      let top := Nat.pow 256 f.size
      Text.ofInt (if 2 * n < top then (n : Int) else (n : Int) - top)
  | 'f' =>
      let x : Float := if f.size = 4 then (Float32.ofBits (UInt32.ofNat n)).toFloat
        else Float.ofBits (UInt64.ofNat n)
      (Dyadic.ofFloat x).general (if f.size = 4 then 8 else 17)
  | 'a' =>
      let n := n % 128
      if n = 127 then "del".toList else ((names[n]?).map String.toList).getD [Char.ofNat n]
  | _ =>
      match Char.ofNat n with
      | '\x00' => "\\0".toList
      | '\x07' => "\\a".toList
      | '\x08' => "\\b".toList
      | '\t' => "\\t".toList
      | '\n' => "\\n".toList
      | '\x0b' => "\\v".toList
      | '\x0c' => "\\f".toList
      | '\r' => "\\r".toList
      | c => if 0x20 ≤ n && n < 0x7f then [c] else (inBase 8 (512 + n)).tail

end DumpForm

/-- The texts of a length one after the other. -/
def chunks (size : Nat) : Nat → Text → List Text
  | 0, _ => []
  | fuel + 1, t => if t.isEmpty then [] else t.take size :: chunks size fuel (t.drop size)

/-- The bytes of a line in one form, each number as wide as the widest form asks for. -/
def dumpedLine (f : DumpForm) (perLine widest : Nat) (line : Text) : Text :=
  let fields := perLine / f.size
  let pad := widest - fields * f.width
  let parts := (chunks f.size line.length line).map fun t =>
    t ++ List.replicate (f.size - t.length) '\x00'
  let shown := (parts.zipIdx).flatMap fun (part, n) =>
    let before := pad * (fields - n) / fields
    let after := pad * (fields - n - 1) / fields
    rightIn (f.width + before - after) (f.shown part)
  let text := if f.showsText then
      List.replicate (widest - shown.length) ' ' ++ "  >".toList ++
        line.map (fun c => if 0x20 ≤ c.toNat && c.toNat < 0x7f then c else '.') ++ ['<']
    else []
  shown ++ text

/-- All lines of a text as numbers, with the places of their beginnings; lines that are like the one
before are left out behind a star. -/
def dumpedLines (forms : List DumpForm) (place : Nat → Text) (perLine widest : Nat)
    (showsAll : Bool) : Nat → Option Text → Bool → List Text → Text
  | start, _, _, [] => let t := place start; if t.isEmpty then [] else t ++ ['\n']
  | start, last, isStarred, line :: lines =>
      let next := start + line.length
      if last = some line && !showsAll && line.length = perLine then
        (if isStarred then [] else "*\n".toList) ++
          dumpedLines forms place perLine widest showsAll next last true lines
      else
        let head := place start
        let rows := (forms.zipIdx).flatMap fun (f, n) =>
          (if n = 0 then head else List.replicate head.length ' ') ++
            dumpedLine f perLine widest line ++ ['\n']
        rows ++ dumpedLines forms place perLine widest showsAll next (some line) false lines

/-- Shows the bytes of files as numbers. -/
def dump : Tool := fun words s =>
  let old : List (Char × String) := [('a', "a"), ('b', "o1"), ('c', "c"), ('d', "u2"), ('f', "fF"),
    ('i', "dI"), ('l', "dL"), ('o', "o2"), ('s', "d2"), ('x', "x2")]
  optioned "od" "A:abcdfij:lN:oS?st:vw?x" ["address-radix=A", "skip-bytes=j", "read-bytes=N",
    "format=t", "output-duplicates=v", "width=w", "strings=S", "traditional", "endian:"] 1
    (fun g s =>
    let texts := g.options.filterMap fun (key, value) => match key with
      | ['t'] => some value
      | [c] => (old.find? (·.1 == c)).map (·.2.toList)
      | _ => none
    let forms := (texts.map fun t => DumpForm.ofText? (t.length + 1) t).foldr
      (fun f fs => match f, fs with
        | some f, some fs => some (f ++ fs)
        | _, _ => none) (some [])
    let radix := (g.value? 'A').getD ['o']
    match forms with
    | none => s.complain 1 "od".toList "invalid type string".toList
    | some forms =>
        let forms := if forms.isEmpty then [⟨'o', 2, false⟩] else forms
        let skipped := ((g.value? 'j').map sizeOf?).getD (some 0)
        let most := (g.value? 'N').map sizeOf?
        let perLine := match g.value? 'w' with
          | none => 16
          | some [] => 32
          | some t => digitsValue t
        let unit := (forms.map (·.size)).foldl max 1
        let perLine := if perLine % unit = 0 then perLine else unit
        match skipped, most with
        | none, _ => s.complain 1 "od".toList "invalid number".toList
        | _, some none => s.complain 1 "od".toList "invalid number".toList
        | some skipped, most =>
            if !([['o'], ['d'], ['x'], ['n']].contains radix) then
              s.complain 1 "od".toList "invalid output address radix".toList
            else if perLine = 0 then s.complain 1 "od".toList "invalid width".toList
            else
              let most := most.bind id
              let isPlain := g.operands.isEmpty
              let (s, t) := if isPlain && most.isSome then
                  let count := skipped + most.getD 0
                  match s.opening? 0 with
                  | some n =>
                      let (t, world) := s.world.taken n count
                      ({ s with world := world }, t)
                  | none => (s, [])
                else
                  let endless := g.operands.any fun path => match s.contentAt? path with
                    | some (.device name) => name = "zero".toList || name = "urandom".toList ||
                        name = "random".toList
                    | _ => false
                  if endless then (s, List.replicate (skipped + most.getD 0) '\x00')
                  else s.gatherAll "od" 1 g.operands
              if s.status ≠ 0 && t.isEmpty then s
              else if t.length < skipped then
                s.complain 1 "od".toList "cannot skip past end of combined input".toList
              else
                let t := t.drop skipped
                let t := most.elim t t.take
                let place (n : Nat) : Text := match radix with
                  | ['d'] => inWidth 7 n
                  | ['x'] =>
                      let h := inBase 16 n
                      List.replicate (6 - h.length) '0' ++ h
                  | ['n'] => []
                  | _ =>
                      let h := inBase 8 n
                      List.replicate (7 - h.length) '0' ++ h
                let widest := (forms.map fun f => perLine / f.size * f.width).foldl max 0
                s.put (dumpedLines forms place perLine widest (g.has 'v') skipped none false
                  (chunks perLine t.length t))) words s

/-- Shows the longer runs of signs in files. -/
def showStrings : Tool := optioned "strings" "adfn:o:t:we:s:U:T:" ["all=a", "bytes=n", "radix=t"] 1
    fun g s =>
  let least := ((g.value? 'n').map digitsValue).getD 4
  if g.has 'n' && least = 0
      then s.complain 1 "strings".toList "invalid minimum string length".toList
  else
    let (s, t) := s.gatherAll "strings" 1 g.operands
    let isSign (c : Char) : Bool := (0x20 ≤ c.toNat && c.toNat < 0x7f) || c == '\t'
    let runs := t.splitBy fun a b => isSign a && isSign b
    s.put (ofLines (runs.filter fun run => run.all isSign && least ≤ run.length))

/-! ### Pieces -/

/-- The name of a piece: letters or digits that count up. -/
def pieceSuffix (isNumber : Bool) (width n : Nat) : Text :=
  let base := if isNumber then 10 else 26
  ((List.range width).map fun place =>
    let digit := n / Nat.pow base (width - 1 - place) % base
    Char.ofNat ((if isNumber then '0' else 'a').toNat + digit))

/-- Pieces of at most so many bytes that hold whole lines where that can be done. -/
def linePieces (size : Nat) : Text → List Text → List Text
  | held, [] => if held.isEmpty then [] else [held]
  | held, line :: lines =>
      if held.length + line.length ≤ size then linePieces size (held ++ line) lines
      else
        let before := if held.isEmpty then [] else [held]
        let parts := chunks size line.length line
        before ++ parts.dropLast ++ linePieces size (parts.getLast?.getD []) lines

/-- So many pieces of about the same size. -/
def evenPieces (count : Nat) (t : Text) : List Text :=
  let size := t.length / count
  let more := t.length % count
  let starts := (List.range (count + 1)).map fun n => n * size + min n more
  (starts.zip starts.tail).map fun (a, b) => (t.take b).drop a

/-- So many pieces of whole lines, each one with the lines that begin in its share. -/
def evenLinePieces (count : Nat) (t : Text) : List Text :=
  let size := max 1 (t.length / count)
  let lines := wholeLines '\n' t
  let (_, placed) := lines.foldl (fun (start, placed) line =>
    (start + line.length, placed ++ [(min (start / size) (count - 1), line)])) (0, [])
  (List.range count).map fun n => (placed.filter (·.1 == n)).flatMap Prod.snd

/-- Cuts the input in pieces. -/
def split : Tool := optioned "split" "a:b:C:del:n:r:t:ux" ["suffix-length=a", "additional-suffix:",
    "bytes=b", "line-bytes=C", "numeric-suffixes?", "hex-suffixes?",
      "elide-empty-files=e", "filter:",
    "lines=l", "number=n", "separator=t", "unbuffered=u", "verbose"] 1 fun g s =>
  let who := "split".toList
  let number (c : Char) : Option (Option Nat) := (g.value? c).map fun t =>
    (sizeOf? t).filter (0 < ·)
  let limit := match g.value? 't' with
    | some [c] => c
    | some ['\\', '0'] => '\x00'
    | _ => '\n'
  let shares : Option (Option (Text × Nat)) := (g.value? 'n').map fun t =>
    let (kind, digits) := (Text.splitFirst ['/'] t).getD ([], t)
    if digits.isEmpty || !digits.all Char.isDigit || digitsValue digits = 0 then none
    else some (kind, digitsValue digits)
  let isNumber := g.has 'd' || g.hasLong "numeric-suffixes"
  let width := ((g.value? 'a').map digitsValue).getD 0
  let isBad := [number 'b', number 'l', number 'C'].any fun n => n = some none
  let manners := (if g.has 'b' then 1 else 0) + (if g.has 'l' then 1 else 0) +
    (if g.has 'C' then 1 else 0) + (if g.has 'n' then 1 else 0)
  if isBad || shares = some none then s.complain 1 who "invalid number".toList
  else if 1 < manners then s.complain 1 who "cannot split in more than one way".toList
  else if 2 < g.operands.length then s.complain 1 who "extra operand".toList
  else
    let (s, t) := s.gatherAll "split" 1 (g.operands.take 1)
    if s.status ≠ 0 then s
    else
      let pieces : List Text := match number 'b', number 'C', shares with
        | some (some n), _, _ => chunks n t.length t
        | _, some (some n), _ => linePieces n [] (wholeLines limit t)
        | _, _, some (some (kind, n)) =>
            if kind = ['l'] then evenLinePieces n t
            else if kind = ['r'] then
              let lines := (wholeLines limit t).zipIdx
              (List.range n).map fun place =>
                (lines.filter fun (_, m) => m % n == place).flatMap Prod.fst
            else evenPieces n t
        | _, _, _ =>
            let n := ((number 'l').bind id).getD 1000
            (grouped n t.length (wholeLines limit t)).map List.flatten
      let pieces := if g.has 'e' then pieces.filter (!·.isEmpty) else pieces
      let first := ((g.longValue? "numeric-suffixes").map digitsValue).getD 0
      let ending := (g.longValue? "additional-suffix").getD []
      let start := (g.operands[1]?).getD ['x']
      let room := Nat.pow (if isNumber then 10 else 26) (if width = 0 then 2 else width)
      if width ≠ 0 && room < pieces.length then
        s.complain 1 who "output file suffixes exhausted".toList
      else
        let width := if width = 0 then (if room < pieces.length then 3 else 2) else width
        (pieces.zipIdx).foldl (fun s (piece, n) =>
          s.save "split" (start ++ pieceSuffix isNumber width (first + n) ++ ending) piece) s
where
  /-- Lists of so many elements one after the other. -/
  grouped {α : Type} (size : Nat) : Nat → List α → List (List α)
    | 0, _ => []
    | fuel + 1, l => if l.isEmpty then [] else l.take size :: grouped size fuel (l.drop size)

/-- Where the next piece begins: at the line of a number, or near one that fits. -/
def nextCut? (word : Text) (lines : List Text) (here : Nat) : Option (Nat × Bool) :=
  match word with
  | c :: rest =>
      if c = '/' || c = '%' then
        match Text.splitFirst [c] rest with
        | none => none
        | some (source, offset) => do
            let r ← Regular.ofText? (.ofStyle .basic) source
            let fitting := (lines.zipIdx).find? fun (line, n) => here < n + (if here = 0
                then 1 else 0) &&
              r.occursIn line
            let (_, n) ← fitting
            let moved := (n : Int) + (numberIn? 10 (offset.filter (· != '+'))).getD 0
            return (moved.toNat, c = '%')
      else
        match numberIn? 10 word with
        | some n => if (n : Int) - 1 ≤ lines.length then some (n.toNat - 1, false) else none
        | none => none
  | [] => none

/-- Cuts the input where lines fit, one word after the other. -/
def cutPieces (lines : List Text) : Nat → Nat → List Text → Option (List (List Text))
  | 0, _, _ => none
  | _ + 1, here, [] => some [lines.drop here]
  | fuel + 1, here, word :: words =>
      let (again, words) := match words with
        | ('\x7b' :: t) :: rest => (t.dropLast, rest)
        | rest => ([], rest)
      let more : List Text := if again.isEmpty || again = ['0'] then words
        else if again = ['*'] then word :: "\x7b*\x7d".toList :: words
        else word :: (['\x7b'] ++ Text.ofNat (digitsValue again - 1) ++ ['\x7d']) :: words
      match nextCut? word lines here with
      | none => if again = ['*'] then cutPieces lines fuel here words else none
      | some (next, isLeftOut) => do
          let rest ← cutPieces lines fuel next more
          if isLeftOut then return rest
          else return ((lines.take next).drop here) :: rest

/-- Cuts a file where lines fit. -/
def splitAtLines : Tool := optioned "csplit" "b:f:kn:qsz" ["suffix-format=b", "prefix=f",
    "keep-files=k",
    "digits=n", "quiet=q", "silent=s", "elide-empty-files=z", "suppress-matched"] 1 fun g s =>
  match g.operands with
  | [] => s.missOperand "csplit" 1
  | [_] => s.missOperand "csplit" 1
  | file :: words =>
      let (s, t) := s.gatherAll "csplit" 1 [file]
      if s.status ≠ 0 then s
      else
        let lines := wholeLines '\n' t
        match cutPieces lines (lines.length + words.length + 10) 0 words with
        | none => s.complain 1 "csplit".toList "match not found".toList
        | some pieces =>
            let pieces := if g.has 'z' then pieces.filter (!·.isEmpty) else pieces
            let width := ((g.value? 'n').map digitsValue).getD 2
            let start := (g.value? 'f').getD "xx".toList
            (pieces.zipIdx).foldl (fun s (piece, n) =>
              let s := s.save "csplit" (start ++ inWidth width n) piece.flatten
              if g.has 's' || g.has 'q' then s
              else s.put (Text.ofNat piece.flatten.length ++ ['\n'])) s

/-- Letters of a class go to the same letters of the other one. -/
example : ((byteRuns? 9 "[:lower:]".toList).toOption.map fun left =>
    ((byteRuns? 9 "[:upper:]".toList).toOption.map fun right =>
      (exchanges false left right).contains ('b', 'B'))) = some (some true) := by decide +kernel

end KeyMenu.Sh
