import KeyMenu.Text.Encoding

/-!
# Reading bytes back

UTF-8 loses nothing: the bytes of a text spell that text again. Reading takes the bytes of one code
point after another, whatever follows them.

* `Text.ofBytesFrom_charBytes`: one code point;
* `Text.ofBytes_toBytes`: a text.
-/

namespace KeyMenu.Text

variable {offset : Nat} {a b c d : UInt8} {rest : List UInt8}

/-! ### Bytes by their numbers -/

theorem isContinuation_iff : isContinuation b = true ↔ 0x80 ≤ b.toNat ∧ b.toNat < 0xc0 := by
  simp [isContinuation, UInt8.le_iff_toNat_le, UInt8.lt_iff_toNat_lt]

theorem secondFits_iff : secondFits a b = true ↔
    isContinuation b = true ∧ (a.toNat = 0xe0 → 0xa0 ≤ b.toNat) ∧
      (a.toNat = 0xed → b.toNat < 0xa0) ∧ (a.toNat = 0xf0 → 0x90 ≤ b.toNat) ∧
      (a.toNat = 0xf4 → b.toNat < 0x90) := by
  simp [secondFits, UInt8.le_iff_toNat_le, UInt8.lt_iff_toNat_lt, ← UInt8.toNat_inj,
    Classical.or_iff_not_imp_left, and_assoc]

/-- The byte of a number that fits. -/
theorem toNat_byte {n : Nat} (h : n < 0x100) : (UInt8.ofNat n).toNat = n :=
  UInt8.toNat_ofNat_of_lt' h

/-- A byte that carries six bits of a number. -/
theorem toNat_continuation (n : Nat) :
    (UInt8.ofNat (0x80 + n % 0x40)).toNat = 0x80 + n % 0x40 := toNat_byte (by omega)

theorem isContinuation_ofNat (n : Nat) :
    isContinuation (UInt8.ofNat (0x80 + n % 0x40)) = true := by
  rw [isContinuation_iff, toNat_continuation]
  omega

theorem payload_ofNat (n : Nat) : payload (UInt8.ofNat (0x80 + n % 0x40)) = n % 0x40 := by
  rw [payload, toNat_continuation]
  omega

/-! ### One sequence in front of others -/

theorem ofBytesFrom_one (ha : a.toNat < 0x80) : ofBytesFrom offset (a :: rest) =
    (ofBytesFrom (offset + 1) rest).map (Char.ofNat a.toNat :: ·) := by
  have hfirst : a < 0x80 := UInt8.lt_iff_toNat_lt.2 ha
  rw [ofBytesFrom.eq_def]
  exact if_pos hfirst

/-- The first byte of a longer sequence. -/
theorem not_single (ha : 0xc2 ≤ a.toNat) (ha' : a.toNat < 0xf5) :
    ¬ a < 0x80 ∧ (a < 0xc2 || 0xf5 ≤ a) = false := by
  simp only [UInt8.lt_iff_toNat_lt, UInt8.le_iff_toNat_le, Bool.or_eq_false_iff,
    decide_eq_false_iff_not]
  refine ⟨?_, ?_, ?_⟩ <;> simp <;> omega

theorem ofBytesFrom_two (ha : 0xc2 ≤ a.toNat) (ha' : a.toNat < 0xe0)
    (hb : isContinuation b = true) : ofBytesFrom offset (a :: b :: rest) =
      (ofBytesFrom (offset + 2) rest).map
        (Char.ofNat (a.toNat % 0x20 * 0x40 + payload b) :: ·) := by
  obtain ⟨hsingle, hstart⟩ := not_single ha (by omega)
  have hfits : secondFits a b = true := secondFits_iff.2 ⟨hb, by omega⟩
  have hshort : a < 0xe0 := UInt8.lt_iff_toNat_lt.2 ha'
  rw [ofBytesFrom.eq_def]
  simp [hsingle, hstart, hfits, hshort]

theorem ofBytesFrom_three (ha : 0xe0 ≤ a.toNat) (ha' : a.toNat < 0xf0)
    (hb : secondFits a b = true) (hc : isContinuation c = true) :
    ofBytesFrom offset (a :: b :: c :: rest) =
      (ofBytesFrom (offset + 3) rest).map
        (Char.ofNat ((a.toNat % 0x10 * 0x40 + payload b) * 0x40 + payload c) :: ·) := by
  obtain ⟨hsingle, hstart⟩ := not_single (a := a) (by omega) (by omega)
  have hlong : ¬ a < 0xe0 := fun h => absurd (UInt8.lt_iff_toNat_lt.1 h) (Nat.not_lt.2 ha)
  have hshort : a < 0xf0 := UInt8.lt_iff_toNat_lt.2 ha'
  rw [ofBytesFrom.eq_def]
  simp [hsingle, hstart, hb, hc, hlong, hshort]

theorem ofBytesFrom_four (ha : 0xf0 ≤ a.toNat) (ha' : a.toNat < 0xf5)
    (hb : secondFits a b = true) (hc : isContinuation c = true) (hd : isContinuation d = true) :
    ofBytesFrom offset (a :: b :: c :: d :: rest) =
      (ofBytesFrom (offset + 4) rest).map
        (Char.ofNat (((a.toNat % 0x8 * 0x40 + payload b) * 0x40 + payload c) * 0x40 + payload d)
          :: ·) := by
  obtain ⟨hsingle, hstart⟩ := not_single (a := a) (by omega) ha'
  have hlong : ¬ a < 0xf0 := fun h => absurd (UInt8.lt_iff_toNat_lt.1 h) (Nat.not_lt.2 ha)
  have hlong' : ¬ a < 0xe0 := fun h =>
    absurd (UInt8.lt_iff_toNat_lt.1 h) (Nat.not_lt.2 (Nat.le_trans (by decide) ha))
  rw [ofBytesFrom.eq_def]
  simp [hsingle, hstart, hb, hc, hd, hlong, hlong']

/-! ### Code points and texts -/

/-- A code point is read from its bytes, whatever follows them. -/
theorem ofBytesFrom_charBytes (offset : Nat) (c : Char) (rest : List UInt8) :
    ofBytesFrom offset (charBytes c ++ rest) =
      (ofBytesFrom (offset + (charBytes c).length) rest).map (c :: ·) := by
  -- surrogates are no code points, and the last code point is `0x10ffff`
  have hvalid : c.toNat < 0xd800 ∨ 0xdfff < c.toNat ∧ c.toNat < 0x110000 := c.valid
  have hchar {n : Nat} (h : n = c.toNat) : Char.ofNat n = c := h ▸ Char.ofNat_toNat c
  rw [charBytes]
  generalize c.toNat = n at hvalid hchar
  split
  · have ha := toNat_byte (n := n) (by omega)
    rw [List.singleton_append, ofBytesFrom_one (by omega), ha, hchar rfl]
    rfl
  split
  · have ha := toNat_byte (n := 0xc0 + n / 0x40) (by omega)
    rw [List.cons_append, List.singleton_append,
      ofBytesFrom_two (by omega) (by omega) (isContinuation_ofNat n), ha, payload_ofNat,
      hchar (by omega)]
    rfl
  split
  · have ha := toNat_byte (n := 0xe0 + n / 0x1000) (by omega)
    have hb := toNat_continuation (n / 0x40)
    have hfits : secondFits (UInt8.ofNat (0xe0 + n / 0x1000))
        (UInt8.ofNat (0x80 + n / 0x40 % 0x40)) = true := by
      refine secondFits_iff.2 ⟨isContinuation_ofNat _, ?_⟩
      rw [ha, hb]
      omega
    rw [List.cons_append, List.cons_append, List.singleton_append,
      ofBytesFrom_three (by omega) (by omega) hfits (isContinuation_ofNat n), ha, payload_ofNat,
      payload_ofNat, hchar (by omega)]
    rfl
  · have ha := toNat_byte (n := 0xf0 + n / 0x40000) (by omega)
    have hb := toNat_continuation (n / 0x1000)
    have hfits : secondFits (UInt8.ofNat (0xf0 + n / 0x40000))
        (UInt8.ofNat (0x80 + n / 0x1000 % 0x40)) = true := by
      refine secondFits_iff.2 ⟨isContinuation_ofNat _, ?_⟩
      rw [ha, hb]
      omega
    rw [List.cons_append, List.cons_append, List.cons_append, List.singleton_append,
      ofBytesFrom_four (by omega) (by omega) hfits (isContinuation_ofNat _)
        (isContinuation_ofNat n), ha, payload_ofNat, payload_ofNat, payload_ofNat,
      hchar (by omega)]
    rfl

theorem ofBytesFrom_toBytes (offset : Nat) (t : Text) : ofBytesFrom offset (toBytes t) = .ok t := by
  induction t generalizing offset with
  | nil => rfl
  | cons c t ih =>
      rw [toBytes_cons, ofBytesFrom_charBytes, ih]
      rfl

/-- **A text is read from its bytes.** -/
theorem ofBytes_toBytes (t : Text) : ofBytes (toBytes t) = .ok t := ofBytesFrom_toBytes 0 t

end KeyMenu.Text
