import KeyMenu.Proofs.Config.Conflict
import KeyMenu.Proofs.Config.WellFormed

/-!
# The graph of the menus

What it means for a configuration that its graph has no faults (`Config.graphFaults_eq_nil_iff`):
sessions have a menu to begin in, every key can be typed and leads somewhere, and what commands
refer to is there.

* `Config.SoundGraph`;
* `Config.WellFormed.soundGraph`, `Config.WellFormed.eq_of_isPrefix`.
-/

namespace KeyMenu

/-- A graph of menus without faults. -/
structure Config.SoundGraph (c : Config) : Prop where
  root : ∃ m, c.menu? rootName = some m
  conflicts : ∀ m ∈ c.menus, keyConflicts m.keys = []
  submenus : ∀ m ∈ c.menus, ∀ key name, (key, .submenu name) ∈ m.entries →
    ∃ target, c.menu? name = some target
  references : ∀ m ∈ c.menus, ∀ key command, (key, .command command) ∈ m.entries →
    ∀ name ∈ command.expr.references, ∃ e, c.snippets.get? name = some e
  snippets : c.snippets.faults = []

/-- An entry has no faults exactly if what it names is there. -/
theorem referenceFaults_eq_nil_iff {c : Config} {menu key : Text} {entry : Entry} :
    referenceFaults c menu key entry = [] ↔
      (∀ name, entry = .submenu name → ∃ target, c.menu? name = some target) ∧
        ∀ command, entry = .command command →
          ∀ name ∈ command.expr.references, ∃ e, c.snippets.get? name = some e := by
  cases entry with
  | submenu name => cases hm : c.menu? name <;> simp [referenceFaults, hm]
  | command command => simp [referenceFaults, List.filter_eq_nil_iff, Option.ne_none_iff_exists']

namespace Config

variable {c : Config}

theorem graphFaults_eq_nil_iff : c.graphFaults = [] ↔ c.SoundGraph := by
  rw [graphFaults, List.append_eq_nil_iff, List.append_eq_nil_iff, List.map_eq_nil_iff,
    List.flatMap_eq_nil_iff, ite_eq_left_iff]
  constructor
  · rintro ⟨⟨hroot, hmenus⟩, hsnippets⟩
    have hentries : ∀ m ∈ c.menus, ∀ p ∈ m.entries, referenceFaults c m.name p.1 p.2 = [] :=
      fun m hm => List.flatMap_eq_nil_iff.1 (List.append_eq_nil_iff.1 (hmenus m hm)).2
    refine ⟨?_, fun m hm => ?_, fun m hm key name he => ?_, fun m hm key command he => ?_,
      hsnippets⟩
    · refine Option.isSome_iff_exists.1 ?_
      by_contra hnone
      cases hroot hnone
    · exact List.map_eq_nil_iff.1 (List.append_eq_nil_iff.1 (hmenus m hm)).1
    · exact (referenceFaults_eq_nil_iff.1 (hentries m hm _ he)).1 name rfl
    · exact (referenceFaults_eq_nil_iff.1 (hentries m hm _ he)).2 command rfl
  · intro h
    refine ⟨⟨fun hnone => absurd (Option.isSome_iff_exists.2 h.root) hnone, fun m hm => ?_⟩,
      h.snippets⟩
    have hentries : ∀ p ∈ m.entries, referenceFaults c m.name p.1 p.2 = [] := by
      rintro ⟨key, entry⟩ he
      refine referenceFaults_eq_nil_iff.2 ⟨?_, ?_⟩
      · rintro name rfl
        exact h.submenus m hm key name he
      · rintro command rfl
        exact h.references m hm key command he
    rw [hiddenKeyFaults, h.conflicts m hm, List.map_nil, List.nil_append]
    exact List.flatMap_eq_nil_iff.2 hentries

theorem WellFormed.soundGraph (h : c.WellFormed) : c.SoundGraph := graphFaults_eq_nil_iff.1 h.graph

/-- No key of a menu begins another. -/
theorem WellFormed.eq_of_isPrefix (h : c.WellFormed) {m : Menu} (hm : m ∈ c.menus)
    {short longer : Text} (hs : short ∈ m.keys) (hl : longer ∈ m.keys) (hp : short <+: longer) :
    short = longer :=
  (keyConflicts_eq_nil_iff (h.menus m hm).keys).1 (h.soundGraph.conflicts m hm) short hs longer hl
    hp

end Config

end KeyMenu
