import KeyMenu.Text.Encoding

/-!
# Octets

Processes hand each other bytes. A text that a process works on has one sign for each byte, with the
number of that byte (`octets`). What a process takes for one letter depends on the language that it
has been told (`characters`): either every byte, or every sequence that UTF-8 gives a code point.
-/

namespace KeyMenu.Sh

/-- The sign of a byte. -/
def octet (b : UInt8) : Char := Char.ofNat b.toNat

/-- A text with one sign for each of its bytes. -/
def octets (t : Text) : Text := (Text.toBytes t).map octet

/-- The bytes of a text of octets. -/
def octetBytes (t : Text) : List UInt8 := t.map fun c => UInt8.ofNat c.toNat

/-- The text whose bytes are given, if they are the bytes of one. -/
def ofOctets? (t : Text) : Option Text := (Text.ofBytes (octetBytes t)).toOption

/-- The number of bytes in the sequence that a byte begins. -/
def sequenceLength (c : Char) : Nat :=
  let n := c.toNat
  if n < 0xc2 then 1 else if n < 0xe0 then 2 else if n < 0xf0 then 3 else if n < 0xf5 then 4 else 1

/-- The letters of a text: code points where `isWide`, bytes otherwise. A byte that belongs to no
code point is a letter of its own. -/
def characters (isWide : Bool) : Nat → Text → List Text
  | 0, _ => []
  | _ + 1, [] => []
  | fuel + 1, c :: rest =>
      let group := (c :: rest).take (sequenceLength c)
      if isWide && 1 < group.length && (ofOctets? group).any (·.length == 1) then
        group :: characters isWide fuel (rest.drop (group.length - 1))
      else [c] :: characters isWide fuel rest

/-- The code points of a text, if it is to be read as UTF-8; bytes that belong to none stay as they
are. -/
def widened (isWide : Bool) (t : Text) : Text :=
  if isWide then (characters true t.length t).flatMap fun group => (ofOctets? group).getD group
  else t

/-- The octets of code points that have been read as UTF-8. -/
def narrowed (isWide : Bool) (t : Text) : Text := if isWide then octets t else t

/-- A letter in capitals. -/
def capital (c : Char) : Char :=
  let n := c.toNat
  if n < 0x80 then c.toUpper
  else if (0xe0 ≤ n ∧ n ≤ 0xfe ∧ n ≠ 0xf7) ∨ (0x3b1 ≤ n ∧ n ≤ 0x3c9 ∧ n ≠ 0x3c2) ∨
      (0x430 ≤ n ∧ n ≤ 0x44f) then Char.ofNat (n - 0x20)
  else if 0x450 ≤ n ∧ n ≤ 0x45f then Char.ofNat (n - 0x50)
  else if 0x100 ≤ n ∧ n ≤ 0x137 ∧ n % 2 = 1 then Char.ofNat (n - 1)
  else if n = 0xff then Char.ofNat 0x178
  else c

/-- A letter that is no capital. -/
def small (c : Char) : Char :=
  let n := c.toNat
  if n < 0x80 then c.toLower
  else if (0xc0 ≤ n ∧ n ≤ 0xde ∧ n ≠ 0xd7) ∨ (0x391 ≤ n ∧ n ≤ 0x3a9) ∨ (0x410 ≤ n ∧ n ≤ 0x42f) then
    Char.ofNat (n + 0x20)
  else if 0x400 ≤ n ∧ n ≤ 0x40f then Char.ofNat (n + 0x50)
  else if 0x100 ≤ n ∧ n ≤ 0x137 ∧ n % 2 = 0 then Char.ofNat (n + 1)
  else if n = 0x178 then Char.ofNat 0xff
  else c

/-- A letter that takes two bytes is one letter for who reads UTF-8. -/
example : (characters true 9 (octets "aé".toList)).length = 2 := by decide +kernel

example : (characters false 9 (octets "aé".toList)).length = 3 := by decide +kernel

end KeyMenu.Sh
