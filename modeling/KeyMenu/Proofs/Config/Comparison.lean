import KeyMenu.Proofs.Config.Conflict
import Mathlib.Data.List.FinRange

/-!
# Keys compared two by two

`keyConflicts` looks at each key and at the run of keys behind it that begin with it. It finds what
the comparison of all keys with one another finds, each pair of places once, also where a key stands
several times and where several keys begin one another in turn.

* `pairsOf`: the members at every two places of a list;
* `conflict?`: of two keys, in whatever order, the one that begins the other and that other one;
* `keyConflicts_eq_comparison`: the main theorem.
-/

namespace KeyMenu

open Text List

/-! ### Every two places of a list -/

section Pairs

variable {α β : Type} {l l' : List α}

/-- The members at every two places of a list, the one in front first. -/
def pairsOf (l : List α) : List (α × α) :=
  (finRange l.length).flatMap fun i =>
    ((finRange l.length).filter (i < ·)).map fun j => (l[i], l[j])

@[simp] theorem pairsOf_nil : pairsOf ([] : List α) = [] := rfl

/-- The first member is paired with each one behind it. -/
theorem pairsOf_cons (a : α) (l : List α) : pairsOf (a :: l) = l.map (a, ·) ++ pairsOf l := by
  have hplaces : finRange (a :: l).length = 0 :: (finRange l.length).map Fin.succ := finRange_succ
  have hfirst : (finRange l.length).map (fun j => (a, l[j])) = l.map (a, ·) :=
    map_map.symm.trans (congrArg (map (a, ·)) (map_getElem_finRange l))
  rw [pairsOf, pairsOf, hplaces, flatMap_cons, flatMap_map, ← hfirst]
  congr 1
  · simp [filter_map, Function.comp_def]
  · simp [filter_map, Function.comp_def]

/-- What holds between the members of all pairs holds pairwise. -/
theorem forall_mem_pairsOf {R : α → α → Prop} :
    (∀ p ∈ pairsOf l, R p.1 p.2) ↔ l.Pairwise R := by
  induction l with
  | nil => simp
  | cons a l ih =>
      rw [pairsOf_cons, forall_mem_append, ih, pairwise_cons, forall_mem_map]

/-- Where it does not matter which member comes first, what is made of the pairs is the same for
every order of the list. -/
theorem filterMap_pairsOf_perm {f : α × α → Option β} (hf : ∀ a b, f (a, b) = f (b, a))
    (h : l.Perm l') : ((pairsOf l).filterMap f).Perm ((pairsOf l').filterMap f) := by
  induction h with
  | nil => rfl
  | @cons a l l' h ih =>
      rw [pairsOf_cons, pairsOf_cons, filterMap_append, filterMap_append]
      exact ((h.map (a, ·)).filterMap f).append ih
  | swap a b l =>
      simp only [pairsOf_cons, map_cons, filterMap_append, filterMap_cons, hf b a]
      -- the pair of the two is in front on both sides, and the pairs with each change places
      cases f (a, b) with
      | none => exact perm_append_comm_assoc _ _ _
      | some c => exact (perm_append_comm_assoc _ _ _).cons c
  | trans _ _ ih ih' => exact ih.trans ih'

end Pairs

/-! ### Comparing keys -/

/-- Of two keys, in whatever order, the one that begins the other and that other one. -/
def conflict? (p : Text × Text) : Option (Text × Text) :=
  if p.1 <+: p.2 then some p else if p.2 <+: p.1 then some p.swap else none

theorem conflict?_swap (s t : Text) : conflict? (s, t) = conflict? (t, s) := by
  by_cases hst : s <+: t <;> by_cases hts : t <+: s
  · rw [hst.eq_of_length_le hts.length_le]
  · simp [conflict?, hst, hts]
  · simp [conflict?, hst, hts]
  · simp [conflict?, hst, hts]

/-- A key that stands in front in code point order is begun by a later one only if they are the
same. -/
theorem conflict?_of_le {s t : Text} (h : le s t = true) :
    conflict? (s, t) = Option.guard (fun p => p.1.isPrefixOf p.2) (s, t) := by
  by_cases hst : s <+: t
  · simp [conflict?, hst, Option.guard]
  · have hts : ¬ t <+: s := fun hts => hst (le_antisymm h (le_of_isPrefix hts) ▸ prefix_rfl)
    simp [conflict?, hst, hts, Option.guard]

/-- In a sorted list it is enough to look at the run of extensions behind each text. -/
theorem extensionPairs_eq_filter {texts : List Text}
    (h : texts.Pairwise fun s t => le s t = true) :
    extensionPairs texts = (pairsOf texts).filter fun p => p.1.isPrefixOf p.2 := by
  induction texts with
  | nil => rfl
  | cons short later ih =>
      rw [extensionPairs_cons, takeWhile_extensions h, ih (pairwise_cons.1 h).2, pairsOf_cons,
        filter_append, filter_map]
      rfl

/-- The conflicts are what the comparison of all keys with one another finds. -/
theorem keyConflicts_perm (keys : List Text) :
    (keyConflicts keys).Perm ((pairsOf keys).filterMap conflict?) := by
  have hsorted := pairwise_sorted keys
  have hconflict : ∀ p ∈ pairsOf (sorted keys),
      conflict? p = Option.guard (fun p => p.1.isPrefixOf p.2) p :=
    fun p hp => conflict?_of_le (forall_mem_pairsOf.2 hsorted p hp)
  rw [keyConflicts, extensionPairs_eq_filter hsorted, ← filterMap_eq_filter,
    ← filterMap_congr hconflict]
  exact filterMap_pairsOf_perm conflict?_swap (mergeSort_perm keys le)

/-- Keys without conflicts stand once. -/
theorem nodup_of_keyConflicts_eq_nil {keys : List Text} (h : keyConflicts keys = []) :
    keys.Nodup := by
  have hperm := keyConflicts_perm keys
  rw [h, nil_perm, filterMap_eq_nil_iff] at hperm
  refine forall_mem_pairsOf.1 fun p hp heq => ?_
  have hnone := hperm p hp
  simp [conflict?, heq] at hnone

/-- **One pass over the sorted keys finds what comparing all keys with one another finds.** The
conflicts are the pairs of keys at two places of the sorted list of which the first begins the
second, once for every two places. Up to their order they are the pairs that are found when the
keys are compared two by two as they stand, and there are none exactly if no key stands twice and
none begins another. -/
theorem keyConflicts_eq_comparison (keys : List Text) :
    (sorted keys).Perm keys ∧ (sorted keys).Pairwise (fun s t => le s t = true) ∧
      keyConflicts keys = (pairsOf (sorted keys)).filter (fun p => p.1.isPrefixOf p.2) ∧
      (keyConflicts keys).Perm ((pairsOf keys).filterMap conflict?) ∧
      (keyConflicts keys = [] ↔
        keys.Nodup ∧ ∀ short ∈ keys, ∀ longer ∈ keys, short <+: longer → short = longer) := by
  have hsorted := pairwise_sorted keys
  refine ⟨mergeSort_perm keys le, hsorted, extensionPairs_eq_filter hsorted,
    keyConflicts_perm keys, fun h => ?_, fun ⟨hnodup, hfree⟩ => ?_⟩
  · have hnodup := nodup_of_keyConflicts_eq_nil h
    exact ⟨hnodup, (keyConflicts_eq_nil_iff hnodup).1 h⟩
  · exact (keyConflicts_eq_nil_iff hnodup).2 hfree

end KeyMenu
