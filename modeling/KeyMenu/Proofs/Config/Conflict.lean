import KeyMenu.Config.Conflict
import KeyMenu.Proofs.Text.Order

/-!
# What one pass over sorted keys finds

In code point order the extensions of a key stand right behind it, so that `keyConflicts` may stop
at the first key that is none (`takeWhile_extensions`). What it lists are exactly the pairs of
different keys of which one begins the other (`mem_keyConflicts`).
-/

namespace KeyMenu

open Text List

/-- Behind a text, its extensions come before everything else. -/
theorem takeWhile_extensions {short : Text} {later : List Text}
    (h : (short :: later).Pairwise fun s t => le s t = true) :
    later.takeWhile short.isPrefixOf = later.filter short.isPrefixOf := by
  induction later with
  | nil => rfl
  | cons x later ih =>
      obtain ⟨hshort, hx, hlater⟩ := pairwise_cons.1 h |>.imp_right pairwise_cons.1
      by_cases hp : short.isPrefixOf x = true
      · have hrest : (short :: later).Pairwise fun s t => le s t = true :=
          pairwise_cons.2 ⟨fun y hy => hshort y (mem_cons_of_mem _ hy), hlater⟩
        rw [takeWhile_cons_of_pos hp, filter_cons_of_pos hp, ih hrest]
      · -- an extension of `short` further on would have `x` between the two
        have hnone : ∀ y ∈ later, ¬ short.isPrefixOf y = true := by
          intro y hy hpy
          simp only [List.isPrefixOf_iff_prefix] at hp hpy
          exact hp (isPrefix_of_between (hshort x mem_cons_self) (hx y hy) hpy)
        rw [takeWhile_cons_of_neg hp, filter_cons_of_neg hp, filter_eq_nil_iff.2 hnone]

/-- In a sorted list, the pairs are those that stand in this order and extend each other. -/
theorem mem_extensionPairs {short longer : Text} {sorted : List Text}
    (h : sorted.Pairwise fun s t => le s t = true) :
    (short, longer) ∈ extensionPairs sorted ↔ [short, longer] <+ sorted ∧ short <+: longer := by
  induction sorted with
  | nil => simp
  | cons first later ih =>
      rw [extensionPairs_cons, mem_append, ih (pairwise_cons.1 h).2, takeWhile_extensions h,
        cons_sublist_cons']
      have hfirst : (short, longer) ∈ (later.filter first.isPrefixOf).map (first, ·) ↔
          (short = first ∧ [longer] <+ later) ∧ short <+: longer := by
        simp only [mem_map, mem_filter, Prod.mk.injEq, isPrefixOf_iff_prefix, singleton_sublist]
        constructor
        · rintro ⟨t, ⟨ht, hp⟩, rfl, rfl⟩
          exact ⟨⟨rfl, ht⟩, hp⟩
        · rintro ⟨⟨rfl, ht⟩, hp⟩
          exact ⟨longer, ⟨ht, hp⟩, rfl, rfl⟩
      rw [hfirst, or_comm, or_and_right]

/-- Of two members of a sorted list, the lesser stands in front. -/
theorem pair_sublist_of_le {s t : Text} {sorted : List Text}
    (h : sorted.Pairwise fun s t => le s t = true) (hs : s ∈ sorted) (ht : t ∈ sorted)
    (hne : s ≠ t) (hle : le s t = true) : [s, t] <+ sorted := by
  induction sorted with
  | nil => cases hs
  | cons first later ih =>
      obtain ⟨hfirst, hlater⟩ := pairwise_cons.1 h
      rcases mem_cons.1 hs with rfl | hsl
      · have htl : t ∈ later := (mem_cons.1 ht).resolve_left hne.symm
        exact (singleton_sublist.2 htl).cons_cons s
      · rcases mem_cons.1 ht with rfl | htl
        · exact absurd (le_antisymm hle (hfirst s hsl)) hne
        · exact (ih hlater hsl htl).cons first

/-- Where all keys differ, the conflicts are the pairs of keys of which the first begins the
second. -/
theorem mem_keyConflicts {keys : List Text} (h : keys.Nodup) {short longer : Text} :
    (short, longer) ∈ keyConflicts keys ↔
      short ∈ keys ∧ longer ∈ keys ∧ short ≠ longer ∧ short <+: longer := by
  have hsorted := pairwise_sorted keys
  rw [keyConflicts, mem_extensionPairs hsorted]
  constructor
  · rintro ⟨hsub, hp⟩
    -- equal keys extend each other, so that only different ones may be in the list
    have hpair : [short, longer].Nodup :=
      hsub.nodup ((mergeSort_perm keys le).nodup_iff.2 h)
    refine ⟨mem_sorted.1 (hsub.subset mem_cons_self), mem_sorted.1 (hsub.subset (by simp)), ?_, hp⟩
    simpa using hpair
  · rintro ⟨hs, hl, hne, hp⟩
    have hsub := pair_sublist_of_le hsorted (mem_sorted.2 hs) (mem_sorted.2 hl) hne
      (le_of_isPrefix hp)
    exact ⟨hsub, hp⟩

/-- Different keys are without conflicts exactly if they do not begin one another. -/
theorem keyConflicts_eq_nil_iff {keys : List Text} (h : keys.Nodup) :
    keyConflicts keys = [] ↔
      ∀ short ∈ keys, ∀ longer ∈ keys, short <+: longer → short = longer := by
  rw [eq_nil_iff_forall_not_mem]
  constructor
  · intro hnone short hs longer hl hp
    by_contra hne
    exact hnone (short, longer) ((mem_keyConflicts h).2 ⟨hs, hl, hne, hp⟩)
  · rintro hfree ⟨short, longer⟩ hmem
    obtain ⟨hs, hl, hne, hp⟩ := (mem_keyConflicts h).1 hmem
    exact hne (hfree short hs longer hl hp)

end KeyMenu
