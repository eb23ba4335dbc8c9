import KeyMenu.Text.Basic
import Mathlib.Data.List.Basic

/-!
# Orders

* `le_foldl_max_iff`: what the maximum of a list is above;
* `Text.le` is a total order in which all extensions of a text follow it directly
  (`Text.isPrefix_of_between`), so that a sorted list has each text in front of its extensions;
* `Text.pairwise_sortedSet`: a sorted set holds each of its texts once.
-/

namespace KeyMenu

theorem le_foldl_max_iff {n a : Nat} {l : List Nat} :
    n ≤ l.foldl max a ↔ n ≤ a ∨ ∃ x ∈ l, n ≤ x := by
  induction l generalizing a with
  | nil => simp
  | cons x l ih =>
      rw [List.foldl_cons, ih, Std.le_max, or_assoc]
      simp only [List.mem_cons, exists_eq_or_imp]

namespace Text

/-! ### Code point order -/

theorem le_cons {a b : Char} {s t : Text} :
    le (a :: s) (b :: t) = true ↔ a.toNat < b.toNat ∨ a = b ∧ le s t = true := by
  simp [le]

theorem le_trans {r s t : Text} (hrs : le r s = true) (hst : le s t = true) : le r t = true := by
  induction r generalizing s t with
  | nil => rfl
  | cons a r ih =>
      cases s with
      | nil => cases hrs
      | cons b s =>
          cases t with
          | nil => cases hst
          | cons c t =>
              rw [le_cons] at hrs hst ⊢
              rcases hrs with hab | ⟨rfl, hrs⟩
              · rcases hst with hbc | ⟨rfl, -⟩
                · exact .inl (Nat.lt_trans hab hbc)
                · exact .inl hab
              · rcases hst with hbc | ⟨rfl, hst⟩
                · exact .inl hbc
                · exact .inr ⟨rfl, ih hrs hst⟩

theorem le_total (s t : Text) : (le s t || le t s) = true := by
  induction s generalizing t with
  | nil => rfl
  | cons a s ih =>
      cases t with
      | nil => rfl
      | cons b t =>
          rw [Bool.or_eq_true, le_cons, le_cons]
          rcases Nat.lt_trichotomy a.toNat b.toNat with hlt | heq | hlt
          · exact .inl (.inl hlt)
          · have hab : a = b := Char.toNat_inj.1 heq
            rcases Bool.or_eq_true _ _ ▸ ih t with h | h
            · exact .inl (.inr ⟨hab, h⟩)
            · exact .inr (.inr ⟨hab.symm, h⟩)
          · exact .inr (.inl hlt)

theorem le_antisymm {s t : Text} (hst : le s t = true) (hts : le t s = true) : s = t := by
  induction s generalizing t with
  | nil =>
      cases t with
      | nil => rfl
      | cons b t => cases hts
  | cons a s ih =>
      cases t with
      | nil => cases hst
      | cons b t =>
          rw [le_cons] at hst hts
          rcases hst with hab | ⟨rfl, hst⟩
          · rcases hts with hba | ⟨rfl, -⟩
            · omega
            · omega
          · rcases hts with hlt | ⟨-, hts⟩
            · omega
            · rw [ih hst hts]

/-- A text comes before its extensions. -/
theorem le_of_isPrefix {s t : Text} (h : s <+: t) : le s t = true := by
  obtain ⟨u, rfl⟩ := h
  induction s with
  | nil => rfl
  | cons a s ih => exact le_cons.2 (.inr ⟨rfl, ih⟩)

/-- Between a text and an extension of it there are only extensions of it. -/
theorem isPrefix_of_between {r s t : Text} (hrs : le r s = true) (hst : le s t = true)
    (hrt : r <+: t) : r <+: s := by
  induction r generalizing s t with
  | nil => exact List.nil_prefix
  | cons a r ih =>
      cases s with
      | nil => cases hrs
      | cons b s =>
          cases t with
          | nil => cases hst
          | cons c t =>
              obtain ⟨rfl, htail⟩ := List.cons_prefix_cons.1 hrt
              rw [le_cons] at hrs hst
              rcases hrs with hab | ⟨rfl, hrs⟩
              · rcases hst with hba | ⟨rfl, -⟩ <;> omega
              · rcases hst with hlt | ⟨-, hst⟩
                · omega
                · exact List.cons_prefix_cons.2 ⟨rfl, ih hrs hst htail⟩

theorem pairwise_sorted (texts : List Text) : (sorted texts).Pairwise fun s t => le s t = true := by
  have htrans : ∀ r s t : Text, le r s = true → le s t = true → le r t = true :=
    fun _ _ _ => le_trans
  exact List.pairwise_mergeSort htrans le_total texts

theorem mem_sorted {t : Text} {texts : List Text} : t ∈ sorted texts ↔ t ∈ texts :=
  List.mem_mergeSort

/-! ### Distinct texts -/

theorem nodup_eraseDups (texts : List Text) : texts.eraseDups.Nodup := by
  induction hlength : texts.length using Nat.strongRecOn generalizing texts with
  | _ length ih =>
    cases texts with
    | nil => exact List.nodup_nil
    | cons t texts =>
        rw [List.eraseDups_cons]
        refine List.nodup_cons.2 ⟨fun ht => ?_, ih _ ?_ _ rfl⟩
        · have hfilter := (List.mem_filter.1 (List.mem_eraseDups.1 ht)).2
          simp at hfilter
        · rw [← hlength, List.length_cons]
          exact Nat.lt_succ_of_le (List.length_filter_le _ _)

theorem mem_sortedSet {t : Text} {texts : List Text} : t ∈ sortedSet texts ↔ t ∈ texts :=
  mem_sorted.trans List.mem_eraseDups

/-- Each text of a sorted set comes before those behind it and differs from them. -/
theorem pairwise_sortedSet (texts : List Text) :
    (sortedSet texts).Pairwise fun s t => le s t = true ∧ s ≠ t :=
  (pairwise_sorted _).and ((List.mergeSort_perm _ _).nodup_iff.2 (nodup_eraseDups texts))

end Text

end KeyMenu
