import KeyMenu.Proofs.Config.WellFormed
import Mathlib.Data.List.Perm.Basic
import Mathlib.Data.Option.Basic

/-!
# Configurations in another order

Two configurations that differ only in the order of menus, snippets and entries give alike values
to every name.

* `Table.sameAs_iff`: tables that are the same up to order, name by name;
* `Menu.Alike`, `Config.Alike`;
* `Config.sameAs_iff_alike`: this is what the test for equality up to order finds;
* `Config.Alike.snippet`, `Config.Alike.cases_menu`: what a name stands for in both.
-/

namespace KeyMenu

/-- Two options that are related are both there, or none of them is. -/
theorem cases_of_rel {α β : Type} {r : α → β → Prop} {x : Option α} {y : Option β}
    (h : Option.Rel r x y) : (x = none ∧ y = none) ∨ ∃ a b, x = some a ∧ y = some b ∧ r a b := by
  cases h with
  | none => exact .inl ⟨rfl, rfl⟩
  | some h => exact .inr ⟨_, _, rfl, rfl, h⟩

theorem rel_eq_iff {α : Type} {x y : Option α} : Option.Rel (· = ·) x y ↔ x = y := by
  constructor
  · intro h
    obtain ⟨rfl, rfl⟩ | ⟨a, b, rfl, rfl, rfl⟩ := cases_of_rel h <;> rfl
  · rintro rfl
    cases x with
    | none => exact .none
    | some a => exact .some rfl

/-! ### Tables -/

namespace Table

variable {α : Type} {s t : Table α}

/-- Tables in which the same names have values have the same names. -/
theorem names_perm_of_rel {r : α → α → Prop} (hs : s.names.Nodup) (ht : t.names.Nodup)
    (h : ∀ name, Option.Rel r (s.get? name) (t.get? name)) : s.names.Perm t.names := by
  refine (List.perm_ext_iff_of_nodup hs ht).2 fun name => ?_
  rw [← get?_isSome_iff, ← get?_isSome_iff]
  obtain ⟨hx, hy⟩ | ⟨a, b, hx, hy, -⟩ := cases_of_rel (h name) <;> simp [hx, hy]

/-- Tables that give the same values to the same names differ in their order only. -/
theorem perm_of_get?_eq (hs : s.names.Nodup) (ht : t.names.Nodup)
    (h : ∀ name, s.get? name = t.get? name) : s.Perm t := by
  refine (List.perm_ext_iff_of_nodup hs.of_map ht.of_map).2 fun ⟨name, value⟩ => ?_
  rw [← get?_eq_some_iff hs, ← get?_eq_some_iff ht, h name]

/-- The test for equality up to order finds out whether the same names have the same values. -/
theorem sameAs_iff {same : α → α → Bool} (hs : s.names.Nodup) (ht : t.names.Nodup) :
    s.sameAs same t = true ↔
      ∀ name, Option.Rel (fun a b => same a b = true) (s.get? name) (t.get? name) := by
  rw [sameAs, Bool.and_eq_true, beq_iff_eq, List.all_eq_true]
  constructor
  · rintro ⟨hlength, hall⟩ name
    have hvalue : ∀ p ∈ s, ∃ other, t.get? p.1 = some other ∧ same p.2 other = true :=
      fun p hp => (Option.any_eq_true ..).1 (hall p hp)
    cases hget : s.get? name with
    | some value =>
        obtain ⟨other, hother, hsame⟩ := hvalue _ (mem_of_get? hget)
        rw [hother]
        exact .some hsame
    | none =>
        -- no name of `t` is missing in `s`, because there are as many of them
        have hsubset : s.names ⊆ t.names := fun name hname => by
          obtain ⟨p, hp, rfl⟩ := List.mem_map.1 hname
          obtain ⟨other, hother, -⟩ := hvalue p hp
          exact get?_isSome_iff.1 (Option.isSome_iff_exists.2 ⟨other, hother⟩)
        have hle : t.names.length ≤ s.names.length := by
          rw [names, names, List.length_map, List.length_map, hlength]
        have hnames := (List.subperm_of_subset hs hsubset).perm_of_length_le hle
        have hnone : t.get? name = none :=
          get?_eq_none_iff.2 fun hname => get?_eq_none_iff.1 hget (hnames.mem_iff.2 hname)
        rw [hnone]
        exact .none
  · intro h
    refine ⟨?_, fun p hp => (Option.any_eq_true ..).2 ?_⟩
    · simpa [names] using (names_perm_of_rel hs ht h).length_eq
    · have hrel := h p.1
      rw [(get?_eq_some_iff hs).2 hp] at hrel
      obtain ⟨hnone, -⟩ | ⟨value, other, hvalue, hother, hsame⟩ := cases_of_rel hrel
      · cases hnone
      · cases hvalue
        exact ⟨other, hother, hsame⟩

/-- In whatever order they stand, the names have the same values. -/
theorem get?_eq_of_perm (hs : s.names.Nodup) (ht : t.names.Nodup) (h : s.Perm t) (name : Text) :
    s.get? name = t.get? name := by
  ext value
  rw [get?_eq_some_iff hs, get?_eq_some_iff ht, h.mem_iff]

/-- A table of plain values is equal to another up to order exactly if it can be reordered to it. -/
theorem sameAs_beq_iff [BEq α] [LawfulBEq α] (hs : s.names.Nodup) (ht : t.names.Nodup) :
    s.sameAs (· == ·) t = true ↔ s.Perm t := by
  rw [sameAs_iff hs ht]
  simp only [beq_iff_eq, rel_eq_iff]
  exact ⟨perm_of_get?_eq hs ht, get?_eq_of_perm hs ht⟩

end Table

/-! ### Menus and configurations -/

/-- The menus differ in the order of their entries only. -/
structure Menu.Alike (a b : Menu) : Prop where
  name : a.name = b.name
  title : a.title = b.title
  entries : a.entries.Perm b.entries

/-- The configurations differ only in the order of snippets and menus, and of the entries of
menus. -/
structure Config.Alike (a b : Config) : Prop where
  settings : a.settings = b.settings
  snippets : a.snippets.Perm b.snippets
  menus : ∀ name, Option.Rel Menu.Alike (a.menu? name) (b.menu? name)

theorem Menu.Alike.displayTitle {a b : Menu} (h : a.Alike b) : a.displayTitle = b.displayTitle := by
  rw [Menu.displayTitle, Menu.displayTitle, h.title, h.name]

theorem Menu.sameAs_iff_alike {a b : Menu} (ha : a.keys.Nodup) (hb : b.keys.Nodup) :
    a.sameAs b = true ↔ a.Alike b := by
  rw [sameAs, Bool.and_eq_true, Bool.and_eq_true, beq_iff_eq, beq_iff_eq,
    Table.sameAs_beq_iff ha hb]
  constructor
  · rintro ⟨⟨hname, htitle⟩, hentries⟩
    exact ⟨hname, htitle, hentries⟩
  · exact fun h => ⟨⟨h.name, h.title⟩, h.entries⟩

namespace Config

variable {a b : Config}

/-- The menus by their names. -/
theorem get?_menus (c : Config) (name : Text) :
    Table.get? (c.menus.map fun m => (m.name, m)) name = c.menu? name := by
  unfold menu?
  induction c.menus with
  | nil => rfl
  | cons m menus ih =>
      rw [List.map_cons, Table.get?_cons, List.find?_cons, ih]
      by_cases hm : m.name = name
      · simp [hm]
      · simp [hm, beq_eq_false_iff_ne.2 hm]

/-- Two configurations pass the test for equality up to order exactly if they differ in nothing but
the order. -/
theorem sameAs_iff_alike (ha : a.WellFormed) (hb : b.WellFormed) :
    a.sameAs b = true ↔ a.Alike b := by
  have hnames {c : Config} (hc : c.WellFormed) :
      (Table.names (c.menus.map fun m => (m.name, m))).Nodup := by
    rw [Table.names, List.map_map]
    exact hc.menuNames
  have hmenu : ∀ name, Option.Rel (fun m n => m.sameAs n = true) (a.menu? name) (b.menu? name) ↔
      Option.Rel Menu.Alike (a.menu? name) (b.menu? name) := by
    intro name
    cases hm : a.menu? name with
    | none => cases b.menu? name <;> simp
    | some m =>
        cases hn : b.menu? name with
        | none => simp
        | some n =>
            rw [Option.rel_some_some, Option.rel_some_some]
            exact Menu.sameAs_iff_alike (ha.menus m (mem_of_menu? hm)).keys
              (hb.menus n (mem_of_menu? hn)).keys
  rw [sameAs, Bool.and_eq_true, Bool.and_eq_true, beq_iff_eq,
    Table.sameAs_beq_iff ha.snippetNames hb.snippetNames,
    Table.sameAs_iff (hnames ha) (hnames hb)]
  simp only [get?_menus, hmenu]
  constructor
  · rintro ⟨⟨hsettings, hsnippets⟩, hmenus⟩
    exact ⟨hsettings, hsnippets, hmenus⟩
  · exact fun h => ⟨⟨h.settings, h.snippets⟩, h.menus⟩

/-- The same names lead to the same snippets. -/
theorem Alike.snippet (ha : a.WellFormed) (hb : b.WellFormed) (h : a.Alike b) (name : Text) :
    a.snippets.get? name = b.snippets.get? name :=
  Table.get?_eq_of_perm ha.snippetNames hb.snippetNames h.snippets name

/-- The same names lead to menus that are alike. -/
theorem Alike.cases_menu (h : a.Alike b) (name : Text) :
    (a.menu? name = none ∧ b.menu? name = none) ∨
      ∃ m n, a.menu? name = some m ∧ b.menu? name = some n ∧ m.Alike n :=
  cases_of_rel (h.menus name)

end Config

end KeyMenu
