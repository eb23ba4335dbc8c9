import KeyMenu.Sh.Output
import KeyMenu.Sh.Rules.Datum
import KeyMenu.Sh.Snippet.Syntax

/-!
# Scalars

A scalar is a text or a number and can be used as either one: a text counts as the number with which
it begins (`Scalar.quantity`), and numbers are written in up to fifteen digits (`Scalar.text`).
Whole numbers are exact as long as they fit into 64 bits. `Operator.apply` says what is computed
from two scalars.
-/

namespace KeyMenu.Sh.Snippet

/-- A number: a whole one within 64 bits, or a binary fraction. -/
inductive Quantity
  | whole (n : Int)
  | fraction (x : Float)

/-- What a variable holds: nothing, a number, a text, both at once, or a place where something else
is, with the sign of what that is. -/
inductive Scalar
  | undefined
  | number (q : Quantity)
  | text (t : Text)
  | both (n : Int) (t : Text)
  | place (sign : Char) (n : Nat)
  | file (name : Text)

namespace Quantity

/-- A whole number within 64 bits. -/
def fits (n : Int) : Bool := -9223372036854775808 ≤ n && n ≤ 18446744073709551615

/-- A whole number, exact if it fits. -/
def ofInt (n : Int) : Quantity := if fits n then .whole n else .fraction (Float.ofInt n)

/-- The binary fraction. -/
def float : Quantity → Float
  | .whole n => Float.ofInt n
  | .fraction x => x

/-- A fraction that is a whole number, and exact, counts as one. -/
def settled : Quantity → Quantity
  | .fraction x =>
      if x == x.floor && x.abs < 9007199254740992.0 then .whole (wholeOf x) else .fraction x
  | q => q

/-- The whole number towards zero. -/
def int : Quantity → Int
  | .whole n => n
  | .fraction x => wholeOf x

/-- The text of a number. -/
def spelled : Quantity → Text
  | .whole n => Text.ofInt n
  | .fraction x =>
      if x.isNaN then "NaN".toList
      else if x.isInf then if x < 0 then "-Inf".toList else "Inf".toList
      else (Dyadic.ofFloat x).general 15

/-- The number is zero. -/
def isZero : Quantity → Bool
  | .whole n => n = 0
  | .fraction x => x == 0

/-- Compares two numbers; there is nothing if one of them is none. -/
def compare? (a b : Quantity) : Option Ordering :=
  match a.settled, b.settled with
  | .whole n, .whole m => some (if n < m then .lt else if m < n then .gt else .eq)
  | a, b =>
      let (x, y) := (a.float, b.float)
      if x < y then some .lt else if y < x then some .gt else if x == y then some .eq else none

/-- The number at the beginning of a text. -/
def ofText (t : Text) : Quantity :=
  let t := t.dropWhile fun c => c == ' ' || ('\t' ≤ c && c ≤ '\x0d')
  let (sign, rest) := match t with
    | '-' :: rest => (['-'], rest)
    | '+' :: rest => ([], rest)
    | rest => ([], rest)
  let digits := rest.takeWhile Char.isDigit
  let after := rest.drop digits.length
  let isPlain := match after with
    | '.' :: _ => false
    | 'e' :: c :: _ => !(c.isDigit || c == '-' || c == '+')
    | 'E' :: c :: _ => !(c.isDigit || c == '-' || c == '+')
    | _ => true
  if isPlain && !digits.isEmpty then
    ofInt (let n : Int := digitsValue digits; if sign.isEmpty then n else -n)
  else
    match Dyadic.read? 53 false t with
    | some (x, _) => .fraction x.toFloat
    | none => .whole 0

end Quantity

namespace Scalar

/-- A whole number. -/
def ofInt (n : Int) : Scalar := .number (.ofInt n)

/-- A number that counts things. -/
def ofNat (n : Nat) : Scalar := .number (.whole n)

/-- One for what is so, and otherwise an empty text that is zero. -/
def ofBool (b : Bool) : Scalar := if b then .number (.whole 1) else .both 0 []

/-- The name of the kind of thing that lies at a place. -/
def kindName (sign : Char) : Text :=
  match sign with
  | '@' => "ARRAY".toList
  | '%' => "HASH".toList
  | '&' => "CODE".toList
  | _ => "SCALAR".toList

/-- The text of a scalar. -/
def spelling : Scalar → Text
  | .undefined => []
  | .number q => q.spelled
  | .text t => t
  | .both _ t => t
  | .place sign n => kindName sign ++ "(0x".toList ++ inBase 16 (0x55d000000000 + 24 * n) ++ [')']
  | .file name => "GLOB(".toList ++ name ++ [')']

/-- The number of a scalar. -/
def quantity : Scalar → Quantity
  | .undefined => .whole 0
  | .number q => q
  | .text t => .ofText t
  | .both n _ => .whole n
  | .place _ n => .whole (0x55d000000000 + 24 * n)
  | .file _ => .whole 1

/-- The whole number of a scalar. -/
def int (s : Scalar) : Int := s.quantity.int

/-- A scalar counts as true. -/
def isTrue : Scalar → Bool
  | .undefined => false
  | .number q => !q.isZero
  | .text t => !(t.isEmpty || t == ['0'])
  | .both _ t => !(t.isEmpty || t == ['0'])
  | _ => true

/-- A scalar holds something. -/
def isDefined : Scalar → Bool
  | .undefined => false
  | _ => true

end Scalar

/-- The next text in the order in which letters and digits count up, if a text does that. -/
def succeeding? (t : Text) : Option Text :=
  let letters := t.takeWhile Char.isAlpha
  if t.isEmpty || !((t.drop letters.length).all Char.isDigit) || letters.isEmpty then none
  else
    let (isOver, raised) := t.foldr (fun c (carry, done) =>
      if !carry then (false, c :: done)
      else if c = 'z' then (true, 'a' :: done)
      else if c = 'Z' then (true, 'A' :: done)
      else if c = '9' then (true, '0' :: done)
      else (false, Char.ofNat (c.toNat + 1) :: done)) (true, [])
    if !isOver then some raised
    else
      match t with
      | c :: _ => some ((if c.isDigit then '1' else if c.isUpper then 'A' else 'a') :: raised)
      | [] => none

/-- Bits as they are combined. -/
def combinedBits (f : Nat → Nat → Nat) (a b : Scalar) : Scalar :=
  let bits (s : Scalar) : Nat := (Int.emod s.int 18446744073709551616).toNat
  .ofNat (f (bits a) (bits b))

/-- A power: exact where the bits of a whole base suffice. -/
def powerOf (a b : Quantity) : Quantity :=
  match a.settled, b.settled with
  | .whole n, .whole m =>
      let size := Nat.log2 n.natAbs + 1
      if 0 ≤ m && size * m.toNat ≤ 64 && n.natAbs ≠ 0 then
        let p := Nat.pow n.natAbs m.toNat
        let isTwo := n.natAbs = Nat.pow 2 (size - 1)
        let value : Int := if n < 0 && m % 2 = 1 then -(p : Int) else p
        if isTwo && 9007199254740992 ≤ p then .fraction (Float.ofInt value) else .ofInt value
      else .fraction ((Float.ofInt n).pow (Float.ofInt m))
  | x, y => .fraction (x.float.pow y.float)

/-- What is computed from two scalars; the message says why there is nothing. -/
def Operator.apply (op : Operator) (a b : Scalar) : Except Text Scalar :=
  let number (exact : Int → Int → Int) (f : Float → Float → Float) : Except Text Scalar :=
    match a.quantity.settled, b.quantity.settled with
    | .whole n, .whole m => .ok (.number (.ofInt (exact n m)))
    | x, y => .ok (.number (.fraction (f x.float y.float)))
  let ordered (f : Ordering → Bool) : Except Text Scalar :=
    .ok (.ofBool ((a.quantity.compare? b.quantity).any f))
  let order : Ordering :=
    let (t, u) := (a.spelling, b.spelling)
    if t == u then .eq else if Text.le t u then .lt else .gt
  let sorted (f : Ordering → Bool) : Except Text Scalar := .ok (.ofBool (f order))
  let rank : Ordering → Scalar
    | .lt => .ofInt (-1)
    | .eq => .ofInt 0
    | .gt => .ofInt 1
  match op with
  | .add => number (· + ·) (· + ·)
  | .subtract => number (· - ·) (· - ·)
  | .multiply => number (· * ·) (· * ·)
  | .divide =>
      if b.quantity.isZero then .error "Illegal division by zero".toList
      else
        match a.quantity.settled, b.quantity.settled with
        | .whole n, .whole m =>
            if n % m = 0 then .ok (.number (.ofInt (n.tdiv m)))
            else .ok (.number (.fraction (Float.ofInt n / Float.ofInt m)))
        | x, y => .ok (.number (.fraction (x.float / y.float)))
  | .remainder =>
      if b.int = 0 then .error "Illegal modulus zero".toList else .ok (.ofInt (a.int.fmod b.int))
  | .power => .ok (.number (powerOf a.quantity b.quantity))
  | .join => .ok (.text (a.spelling ++ b.spelling))
  | .times => .ok (.text ((List.replicate b.int.toNat a.spelling).flatten))
  | .shiftLeft => .ok (combinedBits (fun x y =>
      x * Nat.pow 2 (min y 64) % 18446744073709551616) a b)
  | .shiftRight => .ok (combinedBits (fun x y => x / Nat.pow 2 (min y 64)) a b)
  | .bitAnd => .ok (combinedBits Nat.land a b)
  | .bitOr => .ok (combinedBits Nat.lor a b)
  | .bitXor => .ok (combinedBits Nat.xor a b)
  | .less => ordered (· == .lt)
  | .more => ordered (· == .gt)
  | .atMost => ordered (· != .gt)
  | .atLeast => ordered (· != .lt)
  | .equal => ordered (· == .eq)
  | .unequal => .ok (.ofBool ((a.quantity.compare? b.quantity) != some .eq))
  | .order => .ok (((a.quantity.compare? b.quantity).map rank).getD .undefined)
  | .textLess => sorted (· == .lt)
  | .textMore => sorted (· == .gt)
  | .textAtMost => sorted (· != .gt)
  | .textAtLeast => sorted (· != .lt)
  | .textEqual => sorted (· == .eq)
  | .textUnequal => sorted (· != .eq)
  | .textOrder => .ok (rank order)

/-- What a directive of a format makes of a scalar; there is nothing if it is none. -/
def directiveText? (d : Directive) (s : Scalar) : Option Text :=
  let x := s.quantity
  let whole : Option Text := some (match x with
    | .fraction x => if x.isNaN || x.isInf then d.padded false (name x) else d.integer (wholeOf x)
    | .whole n => d.integer n)
  let fraction : Option Text := some (d.fraction (Dyadic.ofFloat x.float))
  match d.letter with
  | 's' => some (d.padded false (match d.precision with
      | some n => s.spelling.take n
      | none => s.spelling))
  | 'c' => some (d.padded false [Char.ofNat (x.int % 256).toNat])
  | 'd' => whole
  | 'i' => whole
  | 'u' => whole
  | 'x' => whole
  | 'X' => whole
  | 'o' => whole
  | 'b' =>
      let digits := inBase 2 (x.int % 18446744073709551616).toNat
      let digits := List.replicate (d.precision.getD 0 - digits.length) '0' ++ digits
      some (d.paddedNumber true [] (if d.flags.contains '#' then ['0', 'b'] else []) digits)
  | 'e' => fraction
  | 'E' => fraction
  | 'f' => fraction
  | 'F' => fraction
  | 'g' => fraction
  | 'G' => fraction
  | _ => none
where
  /-- The text of what is no number. -/
  name (x : Float) : Text := (Quantity.fraction x).spelled

/-- A format with its directives filled in; what is missing counts as nothing. -/
def filled : Nat → Text → List Scalar → List Scalar → Text
  | 0, _, _, _ => []
  | _ + 1, [], _, _ => []
  | fuel + 1, '%' :: '%' :: rest, all, values => '%' :: filled fuel rest all values
  | fuel + 1, '%' :: rest, all, values =>
      let digits := rest.takeWhile Char.isDigit
      let (chosen, rest) := match rest.drop digits.length with
        | '$' :: rest => if digits.isEmpty then (none, '$' :: rest)
            else (some (digitsValue digits), rest)
        | _ => (none, rest)
      let rest := match rest with
        | 'v' :: 'd' :: rest => 's' :: rest
        | rest => rest
      match Directive.read? rest (values.map Scalar.spelling) with
      | none => '%' :: filled fuel rest all values
      | some (d, after, words) =>
          let left := values.drop (values.length - words.length)
          let (value, left) := match chosen with
            | some n => ((all[n - 1]?).getD .undefined, left)
            | none => (left.headD .undefined, left.tail)
          match directiveText? d value with
          | some t => t ++ filled fuel after all left
          | none => '%' :: filled fuel rest all values
  | fuel + 1, c :: rest, all, values => c :: filled fuel rest all values

/-- A format with its directives filled in. -/
def formatted (format : Text) (values : List Scalar) : Text :=
  filled (format.length + 1) format values values

/-- What begins with letters counts up letter by letter. -/
example : (succeeding? "aa9".toList, succeeding? "Zz".toList) =
    (some "ab0".toList, some "AAa".toList) := by
  decide +kernel

end KeyMenu.Sh.Snippet
