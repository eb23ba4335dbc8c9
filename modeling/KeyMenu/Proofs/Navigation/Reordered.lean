import KeyMenu.Navigation.Place
import KeyMenu.Proofs.Config.Reordered
import KeyMenu.Proofs.Navigation.Match
import Mathlib.Data.List.Forall2

/-!
# Typing where the order is another

A key is looked for in the order of the menu, but as no key begins another it does not matter in
which order they stand. Typing leads to the same outcome and to the same place; only the log names
candidates in the order of their menu.

* `KeyMatch.Alike`, `Menu.Alike.matchTyped`;
* `WalkNote.Alike`, `Feed.Alike`;
* `Config.Alike.settle`, `Config.Alike.feed`.
-/

namespace KeyMenu

/-- The matches differ in the order of the candidates only. -/
inductive KeyMatch.Alike : KeyMatch → KeyMatch → Prop
  | hit (key : Text) (entry : Entry) : Alike (.hit key entry) (.hit key entry)
  | pending {candidates others : List Text} (h : candidates.Perm others) :
      Alike (.pending candidates) (.pending others)
  | miss (shared : Nat) : Alike (.miss shared) (.miss shared)

/-- The notes differ in the order of the candidates only. -/
inductive WalkNote.Alike : WalkNote → WalkNote → Prop
  | refl (note : WalkNote) : Alike note note
  | pending (typed : Text) {candidates others : List Text} (h : candidates.Perm others) :
      Alike (.pending typed candidates) (.pending typed others)

/-- The outcome and the place are the same, and so are the notes but for the order of the
candidates. -/
structure Feed.Alike (a b : Feed) : Prop where
  reading : a.reading = b.reading
  place : a.place = b.place
  notes : List.Forall₂ WalkNote.Alike a.notes b.notes

namespace Menu

variable {m n : Menu}

theorem Alike.keys (h : m.Alike n) : m.keys.Perm n.keys := h.entries.map Prod.fst

/-- In whatever order the keys stand, the same one begins the typed text, or the same ones begin
with it, or it goes along with them as far. -/
theorem Alike.matchTyped (h : m.Alike n) (hm : m.Typeable) (hn : n.Typeable) (typed : Text) :
    (m.matchTyped typed).Alike (n.matchTyped typed) := by
  have hall {p : Text → Prop} (hp : ∀ key ∈ m.keys, p key) : ∀ key ∈ n.keys, p key :=
    fun key hkey => hp key (h.keys.mem_iff.2 hkey)
  cases hmatch : m.matchTyped typed with
  | hit key entry =>
      -- the first key that begins the text is the only one
      obtain ⟨hmem, hp⟩ := (matchTyped_eq_hit_iff hm).1 hmatch
      rw [(matchTyped_eq_hit_iff hn).2 ⟨h.entries.mem_iff.1 hmem, hp⟩]
      exact .hit key entry
  | pending candidates =>
      obtain ⟨hkeys, hne, rfl⟩ := matchTyped_eq_pending_iff.1 hmatch
      have hcandidates := h.keys.filter typed.isPrefixOf
      have hne' : n.keys.filter typed.isPrefixOf ≠ [] := fun hnil =>
        hne (List.perm_nil.1 (hnil ▸ hcandidates))
      rw [matchTyped_eq_pending_iff.2 ⟨hall hkeys, hne', rfl⟩]
      exact .pending hcandidates
  | miss shared =>
      obtain ⟨hkeys, htyped, rfl⟩ := matchTyped_eq_miss_iff.1 hmatch
      have hshared : longestShared m.keys typed = longestShared n.keys typed :=
        (h.keys.map _).foldl_eq 0
      rw [matchTyped_eq_miss_iff.2 ⟨hall hkeys, hall htyped, hshared⟩]
      exact .miss _

end Menu

namespace Config.Alike

variable {a b : Config}

/-- Pending text is read in the same way. -/
theorem settle (h : a.Alike b) (ha : a.WellFormed) (hb : b.WellFormed) (p : Place) :
    (p.settle a).Alike (p.settle b) := by
  induction hlength : p.pending.length using Nat.strong_induction_on generalizing p with
  | _ length ih =>
      -- both sides take the same branch, and a key of a sub-menu leaves less to be read
      unfold Place.settle
      by_cases hnil : p.pending = []
      · rw [if_pos hnil, if_pos hnil]
        exact ⟨rfl, rfl, .nil⟩
      · rw [if_neg hnil, if_neg hnil]
        obtain ⟨hm, hn⟩ | ⟨m, n, hm, hn, halike⟩ := h.cases_menu p.menu
        · rw [hm, hn]
          exact ⟨rfl, rfl, .nil⟩
        · have hmatch := halike.matchTyped (ha.typeable (mem_of_menu? hm))
            (hb.typeable (mem_of_menu? hn)) p.pending
          rw [hm, hn]
          simp only [halike.name]
          generalize m.matchTyped p.pending = found at hmatch
          generalize n.matchTyped p.pending = found' at hmatch
          cases hmatch with
          | pending hcandidates => exact ⟨rfl, rfl, .cons (.pending _ hcandidates) .nil⟩
          | miss shared => exact ⟨rfl, rfl, .nil⟩
          | hit key entry =>
              cases entry with
              | command command => exact ⟨rfl, rfl, .cons (.refl _) .nil⟩
              | submenu name =>
                  by_cases hshorter : (p.step key name).pending.length < p.pending.length
                  · have hnext := ih _ (hlength ▸ hshorter) (p.step key name) rfl
                    simp only [if_pos hshorter]
                    exact ⟨hnext.reading, hnext.place, .cons (.refl _) hnext.notes⟩
                  · simp only [if_neg hshorter]
                    exact ⟨rfl, rfl, .cons (.refl _) .nil⟩

/-- Typed text has the same outcome and leads to the same place. -/
theorem feed (h : a.Alike b) (ha : a.WellFormed) (hb : b.WellFormed) (p : Place) (text : Text) :
    (p.feed a text).Alike (p.feed b text) :=
  h.settle ha hb _

end Config.Alike

end KeyMenu
