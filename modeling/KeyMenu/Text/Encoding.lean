import KeyMenu.Text.Basic

/-!
# UTF-8

`Text.toBytes` writes a text as bytes, `Text.ofBytes` reads bytes strictly: overlong forms,
surrogates and numbers beyond the last code point are refused, and a refusal says at which byte
the first bad sequence starts and why.
-/

namespace KeyMenu

/-- Why bytes are no UTF-8. -/
inductive EncodingFault
  | invalidStart
  | invalidContinuation
  | unexpectedEnd
  deriving DecidableEq

/-- The wording of a fault. -/
def EncodingFault.message : EncodingFault → Text
  | .invalidStart => "invalid start byte".toList
  | .invalidContinuation => "invalid continuation byte".toList
  | .unexpectedEnd => "unexpected end of data".toList

/-- A fault and the number of bytes before the sequence it concerns. -/
structure EncodingError where
  fault : EncodingFault
  offset : Nat
  deriving DecidableEq

namespace Text

/-- The bytes of one code point. -/
def charBytes (c : Char) : List UInt8 :=
  let n := c.toNat
  if n < 0x80 then [UInt8.ofNat n]
  else if n < 0x800 then [UInt8.ofNat (0xc0 + n / 0x40), UInt8.ofNat (0x80 + n % 0x40)]
  else if n < 0x10000 then
    [UInt8.ofNat (0xe0 + n / 0x1000), UInt8.ofNat (0x80 + n / 0x40 % 0x40),
      UInt8.ofNat (0x80 + n % 0x40)]
  else
    [UInt8.ofNat (0xf0 + n / 0x40000), UInt8.ofNat (0x80 + n / 0x1000 % 0x40),
      UInt8.ofNat (0x80 + n / 0x40 % 0x40), UInt8.ofNat (0x80 + n % 0x40)]

/-- The bytes of a text. -/
def toBytes (t : Text) : List UInt8 := t.flatMap charBytes

@[simp] theorem toBytes_nil : toBytes [] = [] := rfl

@[simp] theorem toBytes_cons (c : Char) (t : Text) : toBytes (c :: t) = charBytes c ++ toBytes t :=
  rfl

/-- A byte that continues a sequence. -/
def isContinuation (b : UInt8) : Bool := 0x80 ≤ b && b < 0xc0

/-- The six bits that a continuation byte carries. -/
def payload (b : UInt8) : Nat := b.toNat % 0x40

/-- The second byte of a longer sequence is restricted, so that each code point has one form and
surrogates have none. -/
def secondFits (first second : UInt8) : Bool :=
  isContinuation second &&
    !(first == 0xe0 && second < 0xa0) && !(first == 0xed && 0xa0 ≤ second) &&
    !(first == 0xf0 && second < 0x90) && !(first == 0xf4 && 0x90 ≤ second)

/-- Reads the bytes that follow `offset` others. -/
def ofBytesFrom (offset : Nat) : List UInt8 → Except EncodingError Text
  | [] => .ok []
  | a :: rest =>
      if a < 0x80 then
        (ofBytesFrom (offset + 1) rest).map (Char.ofNat a.toNat :: ·)
      else if a < 0xc2 || 0xf5 ≤ a then .error ⟨.invalidStart, offset⟩
      else
        match rest with
        | [] => .error ⟨.unexpectedEnd, offset⟩
        | b :: rest =>
            if !secondFits a b then .error ⟨.invalidContinuation, offset⟩
            else if a < 0xe0 then
              (ofBytesFrom (offset + 2) rest).map
                (Char.ofNat (a.toNat % 0x20 * 0x40 + payload b) :: ·)
            else
              match rest with
              | [] => .error ⟨.unexpectedEnd, offset⟩
              | c :: rest =>
                  if !isContinuation c then .error ⟨.invalidContinuation, offset⟩
                  else if a < 0xf0 then
                    (ofBytesFrom (offset + 3) rest).map
                      (Char.ofNat ((a.toNat % 0x10 * 0x40 + payload b) * 0x40 + payload c) :: ·)
                  else
                    match rest with
                    | [] => .error ⟨.unexpectedEnd, offset⟩
                    | d :: rest =>
                        if !isContinuation d then .error ⟨.invalidContinuation, offset⟩
                        else
                          (ofBytesFrom (offset + 4) rest).map
                            (Char.ofNat (((a.toNat % 0x8 * 0x40 + payload b) * 0x40 + payload c)
                              * 0x40 + payload d) :: ·)

/-- The text that the bytes spell. -/
def ofBytes (bytes : List UInt8) : Except EncodingError Text := ofBytesFrom 0 bytes

/-- The euro sign takes three bytes and reads back. -/
example : toBytes ['\u20ac'] = [0xe2, 0x82, 0xac] ∧ ofBytes [0xe2, 0x82, 0xac] = .ok ['\u20ac'] :=
  ⟨by decide, rfl⟩

/-- A surrogate has no bytes. -/
example : ofBytes [0x61, 0xed, 0xa0, 0x80] = .error ⟨.invalidContinuation, 1⟩ := rfl

end Text

end KeyMenu
