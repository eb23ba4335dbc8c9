import KeyMenu.Sh.Digits

/-!
# Decimal texts of binary fractions

A binary fraction is a whole number times a power of two (`Dyadic`). It is written exactly and then
rounded to so many decimal digits; what lies in the middle goes to the even neighbour. A decimal
text is read as the nearest binary fraction whose whole number has so many bits.

* `Dyadic.fixed`, `Dyadic.scientific`, `Dyadic.general`: the ways to write one;
* `Dyadic.read?`: the number at the beginning of a text.
-/

namespace KeyMenu.Sh

/-- A number: a sign, and a whole number times a power of two; or it has no end, or is none. -/
inductive Dyadic
  | finite (isNegative : Bool) (m : Nat) (q : Int)
  | infinite (isNegative : Bool)
  | undefined (isNegative : Bool)
  deriving DecidableEq

/-- A quotient rounded to a whole number; the middle goes to the even one. -/
def roundedQuotient (num den : Nat) : Nat :=
  let n := num / den
  let twice := 2 * (num % den)
  if twice < den then n else if den < twice then n + 1 else n + n % 2

/-- A power of ten. -/
def tenTo (n : Nat) : Nat := Nat.pow 10 n

/-- A power of two. -/
def twoTo (n : Nat) : Nat := Nat.pow 2 n

namespace Dyadic

/-- The number that 64 bits stand for. -/
def ofFloat (x : Float) : Dyadic :=
  let bits := x.toBits.toNat
  let isNegative := 9223372036854775808 ≤ bits
  let exponent := bits / 4503599627370496 % 2048
  let fraction := bits % 4503599627370496
  if exponent = 2047 then if fraction = 0 then .infinite isNegative else .undefined isNegative
  else if exponent = 0 then .finite isNegative fraction (-1074)
  else .finite isNegative (fraction + 4503599627370496) ((exponent : Int) - 1075)

/-- The magnitude as a quotient. -/
def quotient (m : Nat) (q : Int) : Nat × Nat :=
  if 0 ≤ q then (m * twoTo q.toNat, 1) else (m, twoTo (-q).toNat)

/-- The nearest number whose whole number has at most so many bits. -/
def ofQuotient (bits : Nat) (isNegative : Bool) (num den : Nat) : Dyadic :=
  if num = 0 then .finite isNegative 0 0
  else
    let size := ((Nat.log2 num : Int) - (Nat.log2 den : Int))
    let q := size - (bits : Int)
    let m := if 0 ≤ q then roundedQuotient num (den * twoTo q.toNat)
      else roundedQuotient (num * twoTo (-q).toNat) den
    if m < twoTo bits then .finite isNegative m q
    else
      let q := q + 1
      .finite isNegative (if 0 ≤ q then roundedQuotient num (den * twoTo q.toNat)
        else roundedQuotient (num * twoTo (-q).toNat) den) q

/-- The number in 64 bits. -/
def toFloat : Dyadic → Float
  | .finite isNegative m q =>
      let x := if 0 ≤ q then (Float.ofNat m).scaleB q else (Float.ofNat m).scaleB q
      if isNegative then -x else x
  | .infinite isNegative => if isNegative then -(1.0 / 0.0) else 1.0 / 0.0
  | .undefined _ => 0.0 / 0.0

/-- The digits of a magnitude with so many places, without a sign. -/
def fixedDigits (m : Nat) (q : Int) (places : Nat) (hasPoint : Bool) : Text :=
  let (num, den) := quotient m q
  let n := roundedQuotient (num * tenTo places) den
  let digits := inWidth (places + 1) n
  let whole := digits.take (digits.length - places)
  let fraction := digits.drop (digits.length - places)
  whole ++ (if places = 0 && !hasPoint then [] else '.' :: fraction)

/-- The exponent of ten of a magnitude that is not zero, and its first digits, so many of them. -/
def leading (m : Nat) (q : Int) (count : Nat) : Int × Nat :=
  let (num, den) := quotient m q
  let guess : Int := ((Text.ofNat num).length : Int) - ((Text.ofNat den).length : Int)
  let reaches (e : Int) : Bool :=
    if 0 ≤ e then den * tenTo e.toNat ≤ num else den ≤ num * tenTo (-e).toNat
  let e := if reaches guess then guess else guess - 1
  let shift : Int := (count : Int) - 1 - e
  let n := if 0 ≤ shift then roundedQuotient (num * tenTo shift.toNat) den
    else roundedQuotient num (den * tenTo (-shift).toNat)
  if tenTo count ≤ n then (e + 1, n / 10) else (e, n)

/-- The text of an exponent: a sign and at least two digits. -/
def exponentText (e : Int) : Text :=
  'e' :: (if e < 0 then '-' else '+') :: inWidth 2 e.natAbs

/-- A magnitude with one digit before the point and so many after it, and an exponent. -/
def scientificDigits (m : Nat) (q : Int) (places : Nat) (hasPoint : Bool) : Text :=
  let (e, n) := if m = 0 then (0, 0) else leading m q (places + 1)
  let digits := inWidth (places + 1) n
  digits.take 1 ++ (if places = 0 && !hasPoint then [] else '.' :: digits.drop 1) ++ exponentText e

/-- A text without the zeros at the end of its fraction. -/
def withoutZeros (t : Text) : Text :=
  if t.contains '.' then
    let kept := (t.reverse.dropWhile (· == '0')).reverse
    if kept.getLast? = some '.' then kept.dropLast else kept
  else t

/-- A magnitude in so many digits, with an exponent where it is very large or very small. Zeros at
the end count for nothing unless asked for. -/
def generalDigits (m : Nat) (q : Int) (digits : Nat) (keepsZeros : Bool) : Text :=
  let digits := max digits 1
  let e := if m = 0 then 0 else (leading m q digits).1
  if e < -4 ∨ (digits : Int) ≤ e then
    let t := scientificDigits m q (digits - 1) keepsZeros
    if keepsZeros then t
    else withoutZeros (t.takeWhile (· != 'e')) ++ t.dropWhile (· != 'e')
  else
    let t := fixedDigits m q ((digits : Int) - 1 - e).toNat keepsZeros
    if keepsZeros then t else withoutZeros t

/-- A number written by a letter, as formats have it: with so many places, and the point and zeros
kept if asked for. Capitals give capitals. The sign stands apart. -/
def written (d : Dyadic) (letter : Char) (places : Option Nat) (keeps : Bool) : Bool × Text :=
  let p := places.getD 6
  let (isNegative, t) := match d, letter.toLower with
    | .infinite isNegative, _ => (isNegative, "inf".toList)
    | .undefined isNegative, _ => (isNegative, "nan".toList)
    | .finite isNegative m q, 'f' => (isNegative, fixedDigits m q p keeps)
    | .finite isNegative m q, 'e' => (isNegative, scientificDigits m q p keeps)
    | .finite isNegative m q, _ => (isNegative, generalDigits m q p keeps)
  (isNegative, if letter.isUpper then t.map Char.toUpper else t)

/-- A number in so many digits. -/
def general (d : Dyadic) (digits : Nat) : Text :=
  let (isNegative, t) := d.written 'g' (some digits) false
  if isNegative then '-' :: t else t

/-- The digits at the beginning of a text, with a point perhaps: their number, how many of them
stand behind the point, and what follows. -/
def digitsRead? (base : Nat) (t : Text) : Option (Nat × Nat × Text) :=
  let isDigit (c : Char) : Bool := digitValue c < base
  let whole := t.takeWhile isDigit
  let rest := t.dropWhile isDigit
  let (fraction, rest) := match rest with
    | '.' :: after => (after.takeWhile isDigit, after.dropWhile isDigit)
    | rest => ([], rest)
  if whole.isEmpty && fraction.isEmpty then none
  else some ((whole ++ fraction).foldl (fun n c => base * n + digitValue c) 0,
      fraction.length, rest)

/-- The exponent at the beginning of a text, after a letter, and what follows it. -/
def exponentRead (letter : Char) (t : Text) : Int × Text :=
  match t with
  | c :: rest =>
      if c.toLower ≠ letter then (0, t)
      else
        let (isNegative, digits) := match rest with
          | '-' :: digits => (true, digits)
          | '+' :: digits => (false, digits)
          | digits => (false, digits)
        match digitsOf 10 9 digits with
        | some (n, after) =>
            let n := min n 99999
            (if isNegative then -(n : Int) else n, after.dropWhile Char.isDigit)
        | none => (0, t)
  | [] => (0, [])

/-- The number at the beginning of a text, to so many bits, and what follows it. Digits behind `0x`
are hexadecimal where `allowsHex`. -/
def read? (bits : Nat) (allowsHex : Bool) (t : Text) : Option (Dyadic × Text) :=
  let (isNegative, t) := match t with
    | '-' :: t => (true, t)
    | '+' :: t => (false, t)
    | t => (false, t)
  let lower := t.map Char.toLower
  match if allowsHex then lower else [] with
  | '0' :: 'x' :: hex =>
      match digitsRead? 16 hex with
      | some (n, places, rest) =>
          let (e, after) := exponentRead 'p' rest
          let e := e - 4 * (places : Int)
          some (ofQuotient bits isNegative (if 0 ≤ e then n * twoTo e.toNat else n)
            (if 0 ≤ e then 1 else twoTo (-e).toNat), t.drop (t.length - after.length))
      | none => some (.finite isNegative 0 0, t.drop 1)
  | _ =>
      if "infinity".toList.isPrefixOf lower then some (.infinite isNegative, t.drop 8)
      else if "inf".toList.isPrefixOf lower then some (.infinite isNegative, t.drop 3)
      else if "nan".toList.isPrefixOf lower then some (.undefined isNegative, t.drop 3)
      else
        match digitsRead? 10 t with
        | none => none
        | some (n, places, rest) =>
            let (e, after) := exponentRead 'e' rest
            let e := max (-20000) (min 20000 (e - (places : Int)))
            some (ofQuotient bits isNegative (if 0 ≤ e then n * tenTo e.toNat else n)
              (if 0 ≤ e then 1 else tenTo (-e).toNat), after)

end Dyadic

/-- The middle goes to the even neighbour. -/
example : Dyadic.fixedDigits 9 (-2) 1 false = "2.2".toList := by decide +kernel

example : (Dyadic.finite false 1 20).general 6 = "1.04858e+06".toList := by decide +kernel

end KeyMenu.Sh
