import KeyMenu.Tree.Token

/-!
# Gaps

What may stand between two tokens, said without reading it: `Gap.Fills gap after g` holds when `g`
is a sequence of spaces and comments of the given kind in front of `after`. The gap that is read is
the one that fills the text up to something that belongs to no gap (`Gap.exists_fills`,
`Gap.lead_append`).
-/

namespace KeyMenu

namespace Gap

/-- `g` is a gap in front of `after`: spaces, and comments, each of which runs up to a line end or
to the end of the text. -/
inductive Fills (gap : Gap) (after : Text) : Text → Prop
  | nil : Fills gap after []
  | space {c : Char} {g : Text} : gap.isSpace c = true → Fills gap after g →
      Fills gap after (c :: g)
  | comment {body g : Text} : '\n' ∉ body → (∀ c ∈ (g ++ after).head?, c = '\n') →
      Fills gap after g → Fills gap after ('#' :: (body ++ g))

/-- The text begins with a gap that is not empty. -/
def opens (gap : Gap) (t : Text) : Bool := t.head?.any fun c => gap.isSpace c || c == '#'

@[simp] theorem opens_cons (gap : Gap) (c : Char) (t : Text) :
    gap.opens (c :: t) = (gap.isSpace c || c == '#') := rfl

theorem isSpace_anyLine_of_isSpace {gap : Gap} {c : Char} (h : gap.isSpace c = true) :
    anyLine.isSpace c = true := by
  cases gap with
  | anyLine => exact h
  | sameLine =>
      simp only [isSpace, Bool.or_eq_true, beq_iff_eq] at h ⊢
      rcases h with h | h <;> simp [h]

@[simp] theorem isSpace_hash (gap : Gap) : gap.isSpace '#' = false := by
  cases gap <;> rfl

theorem isBlank_of_isSpace {gap : Gap} {c : Char} (h : gap.isSpace c = true) :
    isBlank c = true := by
  have h' := isSpace_anyLine_of_isSpace h
  simp only [isSpace, Bool.or_eq_true, beq_iff_eq] at h'
  rcases h' with ((h' | h') | h') | h' <;> subst h' <;> decide

/-- A gap that stays on its line is a gap. -/
theorem Fills.anyLine {gap : Gap} {after g : Text} (h : gap.Fills after g) :
    Gap.anyLine.Fills after g := by
  induction h with
  | nil => exact .nil
  | space hc _ ih => exact .space (isSpace_anyLine_of_isSpace hc) ih
  | comment hbody hend _ ih => exact .comment hbody hend ih

/-- A gap behind a gap. -/
theorem Fills.append {gap : Gap} {after g h : Text} (hg : gap.Fills (h ++ after) g)
    (hh : gap.Fills after h) : gap.Fills after (g ++ h) := by
  induction hg with
  | nil => exact hh
  | space hc _ ih => exact .space hc ih
  | comment hbody hend _ ih =>
      rw [List.cons_append, List.append_assoc]
      exact .comment hbody (by rwa [List.append_assoc]) ih

theorem Fills.opens {gap : Gap} {after g : Text} (h : gap.Fills after g) (hg : g ≠ []) :
    gap.opens g = true := by
  cases h with
  | nil => exact absurd rfl hg
  | space hc _ => simp [hc]
  | comment _ _ _ => simp

/-! ### Equations of reading -/

theorem lead_space {gap : Gap} {c : Char} (h : gap.isSpace c = true) (t : Text) :
    gap.lead (c :: t) = c :: gap.lead t := by
  simp [lead, leadFrom, h]

/-- A comment is read up to the end of its line. -/
theorem leadFrom_true (gap : Gap) (t : Text) :
    gap.leadFrom true t = t.takeWhile (· ≠ '\n') ++ gap.lead (t.dropWhile (· ≠ '\n')) := by
  induction t with
  | nil => rfl
  | cons c rest ih =>
      by_cases hc : c = '\n'
      · subst hc
        simp [lead, leadFrom]
      · simp [leadFrom, hc, ih]

theorem lead_comment (gap : Gap) (t : Text) :
    gap.lead ('#' :: t) =
      '#' :: (t.takeWhile (· ≠ '\n') ++ gap.lead (t.dropWhile (· ≠ '\n'))) := by
  rw [← leadFrom_true]
  simp [lead, leadFrom]

theorem lead_of_not_opens {gap : Gap} {t : Text} (h : gap.opens t = false) : gap.lead t = [] := by
  cases t with
  | nil => rfl
  | cons c rest =>
      simp only [opens_cons, Bool.or_eq_false_iff, beq_eq_false_iff_ne, ne_eq] at h
      simp [lead, leadFrom, h.1, h.2]

/-! ### The gap that is read -/

/-- In front of something that belongs to no gap, a gap is read as it stands. -/
theorem lead_append {gap : Gap} {after g : Text} (h : gap.Fills after g)
    (hafter : gap.opens after = false) : gap.lead (g ++ after) = g := by
  induction h with
  | nil => exact lead_of_not_opens hafter
  | @space c g hc _ ih => rw [List.cons_append, lead_space hc, ih]
  | @comment body g hbody hend _ ih =>
      have hall : ∀ c ∈ body, decide (c ≠ '\n') = true := fun c hc => by
        simp only [ne_eq, decide_not, Bool.not_eq_eq_eq_not, Bool.not_true,
          decide_eq_false_iff_not]
        rintro rfl
        exact hbody hc
      have htake : (g ++ after).takeWhile (· ≠ '\n') = [] := by
        cases hga : g ++ after with
        | nil => rfl
        | cons c rest => simp [hend c (by simp [hga])]
      have hdrop : (g ++ after).dropWhile (· ≠ '\n') = g ++ after := by
        cases hga : g ++ after with
        | nil => rfl
        | cons c rest => simp [hend c (by simp [hga])]
      rw [List.cons_append, List.append_assoc, lead_comment, List.takeWhile_append_of_pos hall,
        List.dropWhile_append_of_pos hall, htake, hdrop, ih, List.append_nil]

/-- Every text is a gap and something that belongs to no gap. -/
theorem exists_fills (gap : Gap) (t : Text) :
    ∃ after, t = gap.lead t ++ after ∧ gap.Fills after (gap.lead t) ∧ gap.opens after = false := by
  -- A comment is passed at once, so the induction is on the length.
  generalize hn : t.length = n
  induction n using Nat.strongRecOn generalizing t with
  | _ n ih =>
    cases t with
    | nil => exact ⟨[], rfl, .nil, rfl⟩
    | cons c rest =>
        by_cases hc : gap.isSpace c = true
        · obtain ⟨after, heq, hfill, hopen⟩ := ih rest.length (by simp [← hn]) rest rfl
          rw [lead_space hc]
          exact ⟨after, by rw [List.cons_append, ← heq], .space hc hfill, hopen⟩
        · by_cases hh : c = '#'
          · subst hh
            obtain ⟨after, heq, hfill, hopen⟩ :=
              ih (rest.dropWhile (· ≠ '\n')).length
                (by
                  have := (List.dropWhile_sublist (l := rest) (· ≠ '\n')).length_le
                  simp only [List.length_cons] at hn
                  omega) _ rfl
            rw [lead_comment]
            refine ⟨after, ?_, .comment ?_ ?_ hfill, hopen⟩
            · rw [List.cons_append, List.append_assoc, ← heq, List.takeWhile_append_dropWhile]
            · intro hmem
              simpa using List.all_eq_true.1 List.all_takeWhile _ hmem
            · rw [← heq]
              intro d hd
              have hhead := List.head?_dropWhile_not (· ≠ '\n') rest
              rw [Option.mem_def.1 hd] at hhead
              simpa using hhead
          · have hopen : gap.opens (c :: rest) = false := by simp [hc, hh]
            rw [lead_of_not_opens hopen]
            exact ⟨c :: rest, rfl, .nil, hopen⟩

end Gap

end KeyMenu
