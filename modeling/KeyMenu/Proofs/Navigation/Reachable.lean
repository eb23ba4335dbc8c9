import KeyMenu.Proofs.Navigation.Walk

/-!
# Places that can be reached

In a configuration that has been read, someone who types and edits always stands in the menu to
which the path leads from the root menu (`Place.Reachable.route`), and no key of it begins what is
pending (`Place.Reachable.settled`).

* `Config.Route`; `Place.Reachable`, `Place.Settled`, `Place.InError`;
* `Place.route_of_selected`: the path of a selected command leads to its menu.
-/

namespace KeyMenu

/-- A path from the root menu through entries for sub-menus, and the menu to which it leads. -/
inductive Config.Route (c : Config) : List Text → Text → Prop
  | root : Route c [] rootName
  | submenu {path : List Text} {menu : Text} {m : Menu} {key name : Text} (hr : Route c path menu)
      (hm : c.menu? menu = some m) (he : (key, .submenu name) ∈ m.entries) :
      Route c (path ++ [name]) name

namespace Config

variable {c : Config} {path : List Text} {menu : Text}

/-- A route leads to a menu that exists. -/
theorem Route.exists_menu (h : c.WellFormed) (hr : c.Route path menu) :
    ∃ m, c.menu? menu = some m := by
  cases hr with
  | root => exact h.soundGraph.root
  | submenu _ hm he => exact h.soundGraph.submenus _ (c.mem_of_menu? hm) _ _ he

/-- All menus on a route exist. -/
theorem Route.exists_of_mem (h : c.WellFormed) (hr : c.Route path menu) :
    ∀ name ∈ path, ∃ m, c.menu? name = some m := by
  induction hr with
  | root => exact fun name hname => (List.not_mem_nil hname).elim
  | submenu hr hm he ih =>
      intro name hname
      rcases List.mem_append.1 hname with hname | hname
      · exact ih name hname
      · cases List.mem_singleton.1 hname
        exact h.soundGraph.submenus _ (c.mem_of_menu? hm) _ _ he

end Config

namespace Place

/-- The places that typing and editing can reach from the root menu. From each of them one can go
back to where a command has been selected. -/
inductive Reachable (c : Config) : Place → Prop
  | start : Reachable c start
  | feed {p : Place} (hp : Reachable c p) (text : Text) : Reachable c (p.feed c text).place
  | backspace {p : Place} (hp : Reachable c p) : Reachable c p.backspace
  | clearPending {p : Place} (hp : Reachable c p) : Reachable c p.clearPending
  | reset {p : Place} (hp : Reachable c p) : Reachable c p.reset
  | enter {p q : Place} {text : Text} {s : Selection} (hp : Reachable c p) (hq : Reachable c q)
      (hs : (q.feed c text).reading = .selected s) : Reachable c (p.enter s.menu s.path)

/-- The menu exists, and none of its keys begins the pending text. -/
def Settled (c : Config) (p : Place) : Prop :=
  ∃ m, c.menu? p.menu = some m ∧ ∀ key ∈ m.keys, ¬ key <+: p.pending

/-- The pending text matches nothing as it stands. -/
def InError (c : Config) (p : Place) : Prop := ∃ e, (p.feed c []).reading = .unmatched e

variable {c : Config} {p q : Place}

theorem extend_nil (p : Place) : p.extend [] = p := by
  rw [extend, List.append_nil]

/-! ### What stays as it is -/

theorem Settled.of_pending_nil (h : c.WellFormed) {m : Menu} (hm : c.menu? p.menu = some m)
    (hnil : p.pending = []) : p.Settled c := by
  refine ⟨m, hm, fun key hkey hp => ?_⟩
  rw [hnil, List.prefix_nil] at hp
  exact (h.typeable (c.mem_of_menu? hm)).ne_nil key hkey hp

theorem Settled.exists_menu (hp : p.Settled c) : ∃ m, c.menu? p.menu = some m := by
  obtain ⟨m, hm, -⟩ := hp
  exact ⟨m, hm⟩

/-- A shorter text in the same menu is no key either. -/
theorem Settled.shorten (hp : p.Settled c) (hmenu : q.menu = p.menu)
    (hpending : q.pending <+: p.pending) : q.Settled c := by
  obtain ⟨m, hm, hkeys⟩ := hp
  exact ⟨m, hmenu ▸ hm, fun key hkey hk => hkeys key hkey (hk.trans hpending)⟩

/-- Sub-menu keys prolong the route. -/
theorem Leads.route (hl : Leads c p q) (hr : c.Route p.path p.menu) : c.Route q.path q.menu := by
  induction hl with
  | refl p => exact hr
  | step hm he _ _ ih => exact ih (hr.submenu hm he)

/-- Sub-menus lead to menus that exist. -/
theorem Leads.exists_menu (h : c.WellFormed) (hl : Leads c p q) {m : Menu}
    (hm : c.menu? p.menu = some m) : ∃ target, c.menu? q.menu = some target := by
  induction hl generalizing m with
  | refl p => exact ⟨m, hm⟩
  | step hm' he _ _ ih =>
      obtain ⟨target, htarget⟩ := h.soundGraph.submenus _ (c.mem_of_menu? hm') _ _ he
      exact ih htarget

/-- Where no further sub-menu is entered, the menu and the path stay. -/
theorem Halts.stays {reading : Reading} {place : Place} (hh : Halts c p reading place) :
    place.menu = p.menu ∧ place.path = p.path := by
  cases hh <;> exact ⟨rfl, rfl⟩

theorem route_feed (h : c.WellFormed) (hr : c.Route p.path p.menu) (text : Text) :
    c.Route (p.feed c text).place.path (p.feed c text).place.menu := by
  obtain ⟨m, hm⟩ := hr.exists_menu h
  obtain ⟨q, hl, hh⟩ := exists_halts_feed h hm text
  rw [hh.stays.1, hh.stays.2]
  exact hl.route hr

/-- After typing, nothing is left that could be taken away. -/
theorem Halts.settled (h : c.WellFormed) {reading : Reading} {place : Place}
    (hh : Halts c p reading place) {m : Menu} (hm : c.menu? p.menu = some m) :
    place.Settled c := by
  cases hh with
  | nothing hnil => exact .of_pending_nil h hm hnil
  | pending hm' hne hmatch => exact ⟨_, hm', (Menu.matchTyped_eq_pending_iff.1 hmatch).1⟩
  | miss hm' hne hmatch => exact ⟨_, hm', (Menu.matchTyped_eq_miss_iff.1 hmatch).1⟩
  | command hm' hne hmatch => exact .of_pending_nil h hm rfl

theorem settled_feed (h : c.WellFormed) {m : Menu} (hm : c.menu? p.menu = some m) (text : Text) :
    (p.feed c text).place.Settled c := by
  obtain ⟨q, hl, hh⟩ := exists_halts_feed h hm text
  obtain ⟨target, htarget⟩ := hl.exists_menu h hm
  exact hh.settled h htarget

/-- No menu is missing on the way. -/
theorem feed_ne_missingMenu (h : c.WellFormed) (hm : c.menu? p.menu = some m) (text name : Text) :
    (p.feed c text).reading ≠ .missingMenu name := by
  obtain ⟨q, hl, hh⟩ := exists_halts_feed h hm text
  intro hmissing
  rw [hmissing] at hh
  cases hh

/-- A command is selected in the menu to which its path leads, under its key. -/
theorem route_of_selected (h : c.WellFormed) (hr : c.Route p.path p.menu) {text : Text}
    {s : Selection} (hs : (p.feed c text).reading = .selected s) :
    c.Route s.path s.menu ∧
      ∃ m, c.menu? s.menu = some m ∧ (s.key, .command s.command) ∈ m.entries := by
  obtain ⟨m, hm⟩ := hr.exists_menu h
  obtain ⟨q, hl, hh⟩ := exists_halts_feed h hm text
  have hroute := hl.route hr
  rw [hs] at hh
  generalize (p.feed c text).place = place at hh
  cases hh with
  | @command target key command htarget hne hmatch =>
      rw [c.name_of_menu? htarget]
      exact ⟨hroute, target, htarget, (Menu.mem_of_matchTyped hmatch).1⟩

/-- The log tells last of the command that has been selected. -/
theorem notes_of_selected (h : c.WellFormed) {m : Menu} (hm : c.menu? p.menu = some m) {text : Text}
    {s : Selection} (hs : (p.feed c text).reading = .selected s) :
    ∃ entered, (p.feed c text).notes = entered ++ [.command s.key s.menu] := by
  obtain ⟨q, hl, hh⟩ := exists_halts_feed h hm text
  obtain ⟨entered, hentered⟩ := hl.notes h
  rw [hs] at hh
  exact ⟨entered, by rw [feed_eq_settle, hentered, hh.notes_of_selected]⟩

/-- The path of a place that can be reached leads to its menu. -/
theorem Reachable.route (h : c.WellFormed) (hp : Reachable c p) : c.Route p.path p.menu := by
  induction hp with
  | start => exact .root
  | feed hp text ih => exact route_feed h ih text
  | backspace hp ih => exact ih
  | clearPending hp ih => exact ih
  | reset hp ih => exact .root
  | enter hp hq hs ihp ihq => exact (route_of_selected h ihq hs).1

/-- Every place that can be reached is settled. -/
theorem Reachable.settled (h : c.WellFormed) (hp : Reachable c p) : p.Settled c := by
  obtain ⟨root, hroot⟩ := h.soundGraph.root
  induction hp with
  | start => exact .of_pending_nil h hroot rfl
  | feed hp text ih =>
      obtain ⟨m, hm⟩ := ih.exists_menu
      exact settled_feed h hm text
  | backspace hp ih => exact ih.shorten rfl (List.dropLast_prefix _)
  | clearPending hp ih => exact ih.shorten rfl List.nil_prefix
  | reset hp ih => exact .of_pending_nil h hroot rfl
  | enter hp hq hs =>
      -- the menu is the one in which a command has been selected on some other way
      obtain ⟨target, htarget⟩ := (route_of_selected h (hq.route h) hs).1.exists_menu h
      exact .of_pending_nil h htarget rfl

/-! ### Errors -/

/-- A settled place is left as it is: it waits, or its pending text matches nothing. -/
theorem Settled.halts (hp : p.Settled c) :
    Halts c p .waiting p ∨ ∃ e, Halts c p (.unmatched e) p := by
  obtain ⟨m, hm, hkeys⟩ := hp
  by_cases hnil : p.pending = []
  · exact .inl (.nothing hnil)
  · cases hmatch : m.matchTyped p.pending with
    | pending candidates => exact .inl (.pending hm hnil hmatch)
    | miss shared => exact .inr ⟨_, .miss hm hnil hmatch⟩
    | hit key entry =>
        obtain ⟨hmem, hk⟩ := Menu.mem_of_matchTyped hmatch
        exact absurd hk (hkeys key (Menu.mem_keys hmem))

/-- Unless it is in error, a settled place waits. -/
theorem Settled.feed_nil (hp : p.Settled c) (herror : ¬ p.InError c) :
    (p.feed c []).Agrees ⟨.waiting, p, []⟩ := by
  rw [feed_eq_settle, extend_nil]
  rcases hp.halts with hh | ⟨e, hh⟩
  · exact hh.settle
  · refine absurd ⟨e, ?_⟩ herror
    rw [feed_eq_settle, extend_nil]
    exact hh.settle.reading

/-- Typing that matches nothing ends in error. -/
theorem inError_of_unmatched (h : c.WellFormed) {m : Menu} (hm : c.menu? p.menu = some m)
    {text : Text} {e : UnmatchedKeys} (he : (p.feed c text).reading = .unmatched e) :
    (p.feed c text).place.InError c := by
  obtain ⟨q, hl, hh⟩ := exists_halts_feed h hm text
  rw [he] at hh
  refine ⟨e, ?_⟩
  rw [hh.eq_of_unmatched, feed_eq_settle, extend_nil]
  exact hh.settle.reading

/-- Typing that waits does not end in error. -/
theorem not_inError_of_waiting (h : c.WellFormed) {m : Menu} (hm : c.menu? p.menu = some m)
    {text : Text} (hw : (p.feed c text).reading = .waiting) :
    ¬ (p.feed c text).place.InError c := by
  obtain ⟨q, hl, hh⟩ := exists_halts_feed h hm text
  rw [hw] at hh
  rintro ⟨e, he⟩
  rw [hh.eq_of_waiting, feed_eq_settle, extend_nil, hh.settle.reading] at he
  cases he

end Place

end KeyMenu
