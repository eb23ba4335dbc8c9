import KeyMenu.Sh.Octet
import KeyMenu.Sh.Output
import KeyMenu.Sh.Rules.Reader

/-!
# Data of rules

What rules compute with is a number, a text, or both at once: a text from outside that looks like a
number is one too (`Datum.ofInput`), and what has never been set is an empty text and zero. Numbers
are written by a format unless they are whole (`Datum.text`), and texts are read as far as they are
numbers (`Datum.number`).
-/

namespace KeyMenu.Sh

/-! ### Fractions with 64 bits -/

namespace Dyadic

/-- The whole number towards zero. -/
def truncated? : Dyadic → Option Int
  | .finite isNegative m q =>
      let n : Nat := if 0 ≤ q then m * twoTo q.toNat else m / twoTo (-q).toNat
      some (if isNegative then -(n : Int) else n)
  | _ => none

/-- What is left of a number when another has been taken away as often as possible; it has the sign
of the first one. -/
def remainder (a b : Dyadic) : Dyadic :=
  match a, b with
  | .finite isNegative m q, .finite _ n p =>
      if n = 0 then .undefined true
      else
        let low := min q p
        let left := m * twoTo (q - low).toNat % (n * twoTo (p - low).toNat)
        if 0 ≤ low then ofQuotient 53 isNegative (left * twoTo low.toNat) 1
        else ofQuotient 53 isNegative left (twoTo (-low).toNat)
  | .finite _ _ _, .infinite _ => a
  | _, _ => .undefined true

end Dyadic

/-- The number of 64 bits towards zero; beyond all whole numbers it is as far as they go. -/
def wholeOf (x : Float) : Int :=
  match Dyadic.ofFloat x with
  | .infinite isNegative => if isNegative then -9223372036854775808 else 9223372036854775807
  | d => (d.truncated?).getD 0

/-- A fraction without its part behind the point. -/
def truncatedFloat (x : Float) : Float := if x < 0 then x.ceil else x.floor

/-- What is left of one number after another. -/
def remainderOf (x y : Float) : Float := ((Dyadic.ofFloat x).remainder (Dyadic.ofFloat y)).toFloat

/-- A fraction written by a format of one directive. -/
def writtenFloat (format : Text) (x : Float) : Text :=
  if format = "%.6g".toList then (Dyadic.ofFloat x).general 6
  else
    let before := format.takeWhile (· != '%')
    match Directive.read? (format.drop (before.length + 1)) [] with
    | some (d, rest, _) =>
        let t := if "diouxX".toList.contains d.letter then d.integer (wholeOf x)
          else d.fraction (Dyadic.ofFloat x)
        before ++ t ++ rest
    | none => format

namespace Rules

/-- What rules compute with. -/
inductive Datum
  | unset
  | number (x : Float)
  | text (t : Text)
  | both (t : Text) (x : Float)

namespace Datum

/-- The number at the beginning of a text, and what follows it. -/
def numberRead? (allowsHex : Bool) (t : Text) : Option (Float × Text) :=
  (Dyadic.read? 53 allowsHex (t.dropWhile fun c => c == ' ' || ('\t' ≤ c && c ≤ '\x0d'))).map
    fun (x, rest) => (x.toFloat, rest)

/-- A text from outside, which may look like a number. -/
def ofInput (t : Text) : Datum :=
  match t.find? fun c => !(c == ' ' || ('\t' ≤ c && c ≤ '\x0d')) with
  | none => .text t
  | some c =>
      if !(c.isDigit || "+-.inIN".toList.contains c) then .text t
      else
        match numberRead? false t with
        | some (x, rest) =>
            if rest.all fun c => c == ' ' || ('\t' ≤ c && c ≤ '\x0d') then .both t x else .text t
        | none => .text t

/-- The number of a datum. -/
def numeric : Datum → Float
  | .unset => 0
  | .number x => x
  | .text t => ((numberRead? true t).map Prod.fst).getD 0
  | .both _ x => x

/-- The text of a number, written by a format if it is not whole. -/
def textOf (format : Text) (x : Float) : Text :=
  if x.isNaN then "-nan".toList
  else if x == x.floor && x.abs < 9223372036854775808.0 then Text.ofInt (wholeOf x)
  else writtenFloat format x

/-- The text of a datum. -/
def spelled (format : Text) : Datum → Text
  | .unset => []
  | .number x => textOf format x
  | .text t => t
  | .both t _ => t

/-- A datum counts as true. -/
def isTrue : Datum → Bool
  | .unset => false
  | .number x => x != 0
  | .text t => !t.isEmpty
  | .both _ x => x != 0

/-- A datum is to be compared as a number. -/
def isNumeric : Datum → Bool
  | .text _ => false
  | _ => true

/-- One for what is so, or else zero. -/
def ofBool (b : Bool) : Datum := .number (if b then 1 else 0)

/-- Compares two data: as numbers if both are some, or else as texts. -/
def compare (format : Text) (relation : Relation) (a b : Datum) : Bool :=
  let order : Ordering :=
    if a.isNumeric && b.isNumeric then
      let (x, y) := (a.numeric, b.numeric)
      if x < y then .lt else if y < x then .gt else .eq
    else
      let (t, u) := (a.spelled format, b.spelled format)
      if t == u then .eq else if Text.le t u then .lt else .gt
  match relation with
  | .less => order == .lt
  | .atMost => order != .gt
  | .equal => order == .eq
  | .unequal => order != .eq
  | .atLeast => order != .lt
  | .more => order == .gt

end Datum

/-- Two numbers taken together. -/
def Operator.apply (op : Operator) (x y : Float) : Float :=
  match op with
  | .add => x + y
  | .subtract => x - y
  | .multiply => x * y
  | .divide => x / y
  | .remainder => remainderOf x y
  | .power => x.pow y

/-! ### Records and fields -/

/-- How a text is cut: at white space, at a sign, at what fits an expression, or into its signs. -/
inductive Cut
  | blanks
  | sign (c : Char)
  | fitting (r : Regular)
  | everywhere

/-- The way to cut that a text stands for. -/
def Cut.ofText? (t : Text) : Option Cut :=
  match t with
  | [' '] => some .blanks
  | [c] => some (.sign c)
  | [] => some .everywhere
  | t => (regular? t).map .fitting

/-- The parts of a text between what is found in it. -/
def partsBetween (t : Text) (start : Nat) : List Found → List Text
  | [] => [t.drop start]
  | f :: found => (t.take f.start).drop start :: partsBetween t f.stop found

/-- The words of a text. -/
def blankWords (t : Text) : List Text :=
  (t.splitBy fun a b => isBlank a == isBlank b).filter fun w => !w.any isBlank
where
  /-- A blank, or the end of a line. -/
  isBlank (c : Char) : Bool := c == ' ' || ('\t' ≤ c && c ≤ '\x0d')

/-- The pieces into which a text is cut; an empty text has none. -/
def Cut.pieces (cut : Cut) (t : Text) : List Text :=
  if t.isEmpty then []
  else
    match cut with
    | .blanks => blankWords t
    | .sign c => t.splitOn c
    | .everywhere => t.map fun c => [c]
    | .fitting r =>
        partsBetween t 0 ((r.findAll true t (t.length + 1) 0 none).filter fun f => f.start < f.stop)

/-- The next record of a text and what follows it, as the separator says: a sign, an expression, or
empty lines if it is empty. -/
def nextRecord? (separator : Text) (t : Text) : Option (Text × Text) :=
  match separator, t with
  | _, [] => none
  | [], t =>
      let t := t.dropWhile (· == '\n')
      if t.isEmpty then none
      else
        match Text.splitFirst ['\n', '\n'] t with
        | some (record, rest) => some (record, rest.dropWhile (· == '\n'))
        | none => some (if t.getLast? = some '\n' then t.dropLast else t, [])
  | [c], t =>
      let record := t.takeWhile (· != c)
      some (record, t.drop (record.length + 1))
  | separator, t =>
      match (regular? separator).bind fun r => r.find? true t 0 with
      | some f =>
          if f.start < f.stop then some (t.take f.start, t.drop f.stop)
          else some (t, [])
      | none => some (t, [])

/-- What is put in place of something that has been found: an ampersand stands for it, unless a
backslash stands in front; two backslashes are one there. The number counts the backslashes just
before. -/
def replacement (found : Text) : Nat → Text → Text
  | n, '\\' :: rest => replacement found (n + 1) rest
  | n, '&' :: rest =>
      List.replicate (n / 2) '\\' ++ (if n % 2 = 1 then ['&'] else found) ++
        replacement found 0 rest
  | n, c :: rest => List.replicate n '\\' ++ c :: replacement found 0 rest
  | n, [] => List.replicate n '\\'

/-- A text with something else in the places that have been found. -/
def withReplaced (t by' : Text) (start : Nat) : List Found → Text
  | [] => t.drop start
  | f :: found =>
      (t.take f.start).drop start ++ replacement (f.text t) 0 by' ++ withReplaced t by' f.stop found

/-- The part of a text from a place on, with a number of signs. -/
def partOf (t : Text) (start : Int) (count : Option Int) : Text :=
  let count := count.map fun n => if start < 1 then n - start else n
  let rest := t.drop (max start 1 - 1).toNat
  match count with
  | some n => rest.take n.toNat
  | none => rest

end Rules

/-- What is left is exact. -/
example : (Dyadic.finite true 7 0).remainder (.finite false 3 0) = .finite true
    4503599627370496 (-52) := by
  decide +kernel

example : Rules.partOf "hello".toList (-1) (some 3) = "hell".toList := by decide +kernel

end KeyMenu.Sh
