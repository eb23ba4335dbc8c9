import KeyMenu.Text.Basic

/-!
# White space and line breaks

* `isBlank`: the white-space code points, and `Text.strip`, which drops them at both ends;
* `isLineBreak` and `Text.lines`: a text cut at every line break, CR LF counting once;
* `Text.unifyNewlines`: CR LF and CR both read as LF.
-/

namespace KeyMenu

/-- The code points that count as white space. -/
def isBlank (c : Char) : Bool :=
  let n := c.toNat
  (0x9 ≤ n && n ≤ 0xd) || (0x1c ≤ n && n ≤ 0x20) || n == 0x85 || n == 0xa0 || n == 0x1680 ||
    (0x2000 ≤ n && n ≤ 0x200a) || n == 0x2028 || n == 0x2029 || n == 0x202f || n == 0x205f ||
    n == 0x3000

theorem isBlank_of_isWhitespace {c : Char} (h : c.isWhitespace = true) : isBlank c = true := by
  simp only [Char.isWhitespace, Bool.or_eq_true, decide_eq_true_eq] at h
  rcases h with ((h | h) | h) | h <;> subst h <;> decide

/-- The code points that end a line. -/
def isLineBreak (c : Char) : Bool :=
  let n := c.toNat
  (0xa ≤ n && n ≤ 0xd) || (0x1c ≤ n && n ≤ 0x1e) || n == 0x85 || n == 0x2028 || n == 0x2029

namespace Text

/-- The text without the white space at its two ends. -/
def strip (t : Text) : Text := ((t.dropWhile isBlank).reverse.dropWhile isBlank).reverse

@[simp] theorem strip_nil : strip [] = [] := rfl

/-- A text of white space alone. -/
def isBlankText (t : Text) : Bool := t.all isBlank

/-- The lines of a text, without their breaks. A break at the very end opens no further line. -/
def lines : Text → List Text
  | [] => []
  | '\r' :: '\n' :: rest => [] :: lines rest
  | c :: rest =>
      if isLineBreak c then [] :: lines rest
      else
        match lines rest with
        | [] => [[c]]
        | line :: more => (c :: line) :: more

@[simp] theorem lines_nil : lines [] = [] := rfl

/-- A text without line breaks is its own single line. -/
theorem lines_eq_singleton {t : Text} (hne : t ≠ []) (h : ∀ c ∈ t, isLineBreak c = false) :
    lines t = [t] := by
  induction t with
  | nil => exact absurd rfl hne
  | cons c rest ih =>
      have hc : isLineBreak c = false := h c (by simp)
      have hcr : c ≠ '\r' := by
        rintro rfl
        exact absurd hc (by decide)
      have hrest : ∀ d ∈ rest, isLineBreak d = false := fun d hd => h d (by simp [hd])
      cases rest with
      | nil => simp [lines, hc]
      | cons d ds =>
          rw [lines]
          · simp [hc, ih (by simp) hrest]
          · intro _ hcontra
            exact absurd hcontra hcr

/-- Every CR LF and every other CR as one LF. -/
def unifyNewlines : Text → Text
  | [] => []
  | '\r' :: '\n' :: rest => '\n' :: unifyNewlines rest
  | c :: rest => (if c = '\r' then '\n' else c) :: unifyNewlines rest

@[simp] theorem unifyNewlines_nil : unifyNewlines [] = [] := rfl

/-- A text without CR is left as it is. -/
theorem unifyNewlines_eq_self {t : Text} (h : '\r' ∉ t) : unifyNewlines t = t := by
  induction t with
  | nil => rfl
  | cons c rest ih =>
      have hc : c ≠ '\r' := fun he => h (by simp [he])
      have hr : '\r' ∉ rest := fun he => h (by simp [he])
      rw [unifyNewlines]
      · simp [hc, ih hr]
      · intro _ he
        exact absurd he hc

end Text

end KeyMenu
