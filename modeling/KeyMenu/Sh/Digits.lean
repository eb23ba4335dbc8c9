import KeyMenu.Text.Basic

/-!
# Numbers in digits

Numbers as they are spelt in digits of some base, at the beginning of a text or by the whole of it.
-/

namespace KeyMenu.Sh

/-- The value of a digit of any base up to 36. -/
def digitValue (c : Char) : Nat :=
  if c.isDigit then c.toNat - '0'.toNat
  else if c.isAlpha then c.toLower.toNat - 'a'.toNat + 10
  else 36

/-- The number that decimal digits spell. -/
def digitsValue (t : Text) : Nat := t.foldl (fun n c => 10 * n + (c.toNat - '0'.toNat)) 0

/-- The number that digits of a base spell at the beginning of a text, of which at most so many
count, and what follows them. -/
def digitsOf (base count : Nat) (t : Text) : Option (Nat × Text) :=
  let digits := (t.take count).takeWhile (digitValue · < base)
  if digits.isEmpty then none
  else some (digits.foldl (fun n c => base * n + digitValue c) 0, t.drop digits.length)

/-- The number that digits of a base spell. -/
def numberIn? (base : Nat) (digits : Text) : Option Int :=
  if digits.isEmpty || digits.any (base ≤ digitValue ·) then none
  else some (digits.foldl (fun n c => base * n + digitValue c) 0 : Nat)

/-- A number in digits, with zeros in front up to a width. -/
def inWidth (width : Nat) (n : Nat) : Text :=
  let digits := Text.ofNat n
  List.replicate (width - digits.length) '0' ++ digits

/-- A number in digits of a base up to 16. -/
def inBase (base n : Nat) : Text := Nat.toDigits base n

example : digitsOf 8 3 "1019".toList = some (65, "9".toList) := by decide +kernel

end KeyMenu.Sh
