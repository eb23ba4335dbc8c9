import KeyMenu.Proofs.Display.View
import Mathlib

/-!
# Journeys through the menus

Someone types, takes back, forgets, begins again, and goes back to where a command was selected.
Whatever is done, in whatever order and however often text is refused, the path leads to the menu,
no key of the menu begins what is pending, and there is something to show.

* `Move`, `Journey`, `Journey.Along`: what can be done, and where it leads;
* `Place.Oriented`, `Place.Awaits`: what every move keeps up;
* `Journey.oriented`: the main theorem.
-/

namespace KeyMenu

/-! ### Moves -/

/-- What someone can do at a place. -/
inductive Move
  | feed (text : Text)
  | backspace
  | clearPending
  | reset
  | enter (menu : Text) (path : List Text)
  deriving DecidableEq

namespace Reading

/-- The selected command. -/
def selection? : Reading → Option Selection
  | .selected selection => some selection
  | _ => none

/-- Typing came to an error. -/
def isRefused : Reading → Bool
  | .waiting => false
  | .selected _ => false
  | .unmatched _ => true
  | .missingMenu _ => true

end Reading

/-- Where a journey has come: the place, the commands that were selected on the way, and whether
the text that was typed last came to an error. -/
structure Journey where
  place : Place
  selected : List Selection
  refused : Bool
  deriving DecidableEq

namespace Journey

/-- Every journey begins at the root menu. -/
def start : Journey := ⟨.start, [], false⟩

/-- The journey with one more move. -/
def go (c : Config) (j : Journey) : Move → Journey
  | .feed text =>
      let feed := j.place.feed c text
      ⟨feed.place, j.selected ++ feed.reading.selection?.toList, feed.reading.isRefused⟩
  | .backspace => { j with place := j.place.backspace }
  | .clearPending => { j with place := j.place.clearPending }
  | .reset => { j with place := j.place.reset }
  | .enter menu path => { j with place := j.place.enter menu path }

/-- One can enter a menu in which a command was selected, on the path that led there. -/
def Allows (j : Journey) : Move → Prop
  | .enter menu path => ∃ s ∈ j.selected, s.menu = menu ∧ s.path = path
  | _ => True

/-- The moves lead from the root menu to where the journey has come. -/
inductive Along (c : Config) : List Move → Journey → Prop
  | start : Along c [] start
  | go {moves : List Move} {j : Journey} {move : Move} (hj : Along c moves j)
      (hmove : j.Allows move) : Along c (moves ++ [move]) (j.go c move)

end Journey

/-! ### Routes, menu by menu -/

namespace Config

variable {c : Config} {path : List Text} {menu : Text}

/-- The one menu has an entry for the other. -/
def HasSubmenu (c : Config) (menu name : Text) : Prop :=
  ∃ m key, c.menu? menu = some m ∧ (key, .submenu name) ∈ m.entries

/-- A route leads to the last menu on it. -/
theorem Route.eq_getLastD (hr : c.Route path menu) : menu = path.getLastD rootName := by
  cases hr with
  | root => rfl
  | submenu hr hm he => simp

/-- Each menu on a route is a sub-menu of the one before. -/
theorem Route.isChain (hr : c.Route path menu) : List.IsChain c.HasSubmenu (rootName :: path) := by
  induction hr with
  | root => exact List.isChain_singleton rootName
  | @submenu path menu m key name hr hm he ih =>
      rw [← List.cons_append, List.isChain_append]
      refine ⟨ih, List.isChain_singleton name, fun last hlast first hfirst => ?_⟩
      have hmenu : last = menu := by
        rw [List.getLast?_cons, Option.mem_some_iff, ← List.getLastD_eq_getLast?] at hlast
        rw [hr.eq_getLastD, hlast]
      cases hfirst
      exact ⟨m, key, hmenu ▸ hm, he⟩

end Config

/-! ### What every move keeps up -/

namespace Place

/-- The path is a walk through entries for sub-menus from the root menu to the menu of the place,
and no key of that menu begins what is pending. -/
structure Oriented (c : Config) (p : Place) (m : Menu) : Prop where
  walk : List.IsChain c.HasSubmenu (rootName :: p.path)
  menu : p.menu = p.path.getLastD rootName
  found : c.menu? p.menu = some m
  keys : ∀ key ∈ m.keys, ¬ key <+: p.pending

/-- Nothing is pending, or the beginning of a key. -/
def Awaits (c : Config) (p : Place) : Prop :=
  p.pending = [] ∨ ∃ m, c.menu? p.menu = some m ∧ ∃ key ∈ m.keys, p.pending <+: key

variable {c : Config} {p q : Place}

/-- A shorter beginning in the same menu is a beginning, too. -/
theorem Awaits.shorten (hp : p.Awaits c) (hmenu : q.menu = p.menu)
    (hpending : q.pending <+: p.pending) : q.Awaits c := by
  rcases hp with hnil | ⟨m, hm, key, hkey, hbegins⟩
  · refine .inl (List.prefix_nil.1 ?_)
    rw [← hnil]
    exact hpending
  · exact .inr ⟨m, hmenu ▸ hm, key, hkey, hpending.trans hbegins⟩

/-- Unless it is refused, typed text makes keys up to the beginning of one. -/
theorem awaits_feed (h : c.WellFormed) {m : Menu} (hm : c.menu? p.menu = some m) {text : Text}
    (haccepted : (p.feed c text).reading.isRefused = false) : (p.feed c text).place.Awaits c := by
  obtain ⟨q, hl, hh⟩ := exists_halts_feed h hm text
  generalize (p.feed c text).reading = reading at hh haccepted
  generalize (p.feed c text).place = place at hh
  cases hh with
  | nothing hnil => exact .inl hnil
  | @pending target candidates htarget hne hmatch =>
      obtain ⟨-, hcandidates, rfl⟩ := Menu.matchTyped_eq_pending_iff.1 hmatch
      obtain ⟨key, hkey⟩ := List.exists_mem_of_ne_nil _ hcandidates
      obtain ⟨hmem, hp⟩ := List.mem_filter.1 hkey
      exact .inr ⟨target, htarget, key, hmem, List.isPrefixOf_iff_prefix.1 hp⟩
  | miss htarget hne hmatch => cases haccepted
  | command htarget hne hmatch => exact .inl rfl

/-- A place that can be reached is oriented in its menu. -/
theorem Reachable.exists_oriented (h : c.WellFormed) (hp : p.Reachable c) :
    ∃ m, p.Oriented c m := by
  obtain ⟨m, hm, hkeys⟩ := hp.settled h
  exact ⟨m, (hp.route h).isChain, (hp.route h).eq_getLastD, hm, hkeys⟩

/-- The titles that a place shows end in the title of its menu. -/
theorem Oriented.exists_view (h : c.WellFormed) (hp : p.Reachable c) {m : Menu}
    (ho : p.Oriented c m) (message : Option Text) :
    ∃ view titles, p.view? c message = some view ∧
      (rootName :: p.path).mapM c.title? = some titles ∧
      view.breadcrumb = Text.joinWith " > ".toList titles ∧
      titles.getLast? = some view.title ∧ view.title = m.displayTitle := by
  obtain ⟨view, hview⟩ := hp.exists_view h message
  obtain ⟨m', breadcrumb, entries, hm', hbreadcrumb, -, rfl⟩ := view?_eq_some_iff.1 hview
  cases ho.found.symm.trans hm'
  obtain ⟨titles, htitles, rfl⟩ := Option.map_eq_some_iff.1 hbreadcrumb
  refine ⟨_, titles, hview, htitles, rfl, ?_, rfl⟩
  have hlast := congrArg List.getLast? (mapM_eq_some_iff.1 htitles)
  rw [List.getLast?_map, List.getLast?_map, List.getLast?_cons, ← List.getLastD_eq_getLast?,
    ← ho.menu, Option.map_some, Config.title?, ho.found] at hlast
  cases ht : titles.getLast? with
  | none => simp [ht] at hlast
  | some title =>
      rw [ht] at hlast
      exact congrArg some (Option.some.inj (Option.some.inj hlast)).symm

end Place

namespace Journey

variable {c : Config} {moves : List Move} {j : Journey}

theorem Along.feed (hj : Along c moves j) (text : Text) :
    Along c (moves ++ [.feed text]) (j.go c (.feed text)) := hj.go trivial

theorem Along.backspace (hj : Along c moves j) :
    Along c (moves ++ [.backspace]) (j.go c .backspace) := hj.go trivial

theorem Along.enter (hj : Along c moves j) {s : Selection} (hs : s ∈ j.selected) :
    Along c (moves ++ [.enter s.menu s.path]) (j.go c (.enter s.menu s.path)) :=
  hj.go ⟨s, hs, rfl, rfl⟩

/-- Journeys lead only to places that can be reached, and what was selected on the way was selected
at such places. -/
theorem Along.reachable (hj : Along c moves j) :
    j.place.Reachable c ∧ ∀ s ∈ j.selected, ∃ q text, Place.Reachable c q ∧
      (q.feed c text).reading = .selected s := by
  induction hj with
  | start => exact ⟨.start, fun s hs => absurd hs List.not_mem_nil⟩
  | @go moves j move hj hmove ih =>
      obtain ⟨hplace, hselected⟩ := ih
      cases move with
      | feed text =>
          refine ⟨hplace.feed text, fun s hs => ?_⟩
          rcases List.mem_append.1 hs with hs | hs
          · exact hselected s hs
          · refine ⟨j.place, text, hplace, ?_⟩
            cases hreading : (j.place.feed c text).reading with
            | selected selection =>
                simp only [hreading, Reading.selection?, Option.toList_some] at hs
                rw [List.mem_singleton.1 hs]
            | waiting | unmatched _ | missingMenu _ =>
                simp [hreading, Reading.selection?] at hs
      | backspace => exact ⟨hplace.backspace, hselected⟩
      | clearPending => exact ⟨hplace.clearPending, hselected⟩
      | reset => exact ⟨hplace.reset, hselected⟩
      | enter menu path =>
          obtain ⟨s, hs, rfl, rfl⟩ := hmove
          obtain ⟨q, text, hq, hreading⟩ := hselected s hs
          exact ⟨hplace.enter hq hreading, hselected⟩

/-- Since the text that was typed last was not refused, a key is awaited. -/
theorem Along.awaits (h : c.WellFormed) (hj : Along c moves j) (haccepted : j.refused = false) :
    j.place.Awaits c := by
  induction hj with
  | start => exact .inl rfl
  | @go moves j move hj hmove ih =>
      cases move with
      | feed text =>
          obtain ⟨m, hm⟩ := (hj.reachable.1.settled h).exists_menu
          exact Place.awaits_feed h hm haccepted
      | backspace => exact (ih haccepted).shorten rfl (List.dropLast_prefix _)
      | clearPending | reset | enter => exact .inl rfl

/-- **On every journey one knows where one is.** Whatever has been typed and edited, the path is a
walk from the root menu to the menu of the place, and no key of that menu begins what is pending.
Unless the text typed last was refused, what is pending is nothing or a proper beginning of a key,
also after some of it has been taken back. There is always something to show, and the last title
on the way is that of the menu. -/
theorem oriented {text : Text} (h : Config.ofText text = .ok c) (hj : Along c moves j) :
    ∃ m, j.place.Oriented c m ∧
      (j.refused = false → j.place.pending = [] ∨
        ∃ key ∈ m.keys, j.place.pending <+: key ∧ j.place.pending ≠ key) ∧
      ∀ message, ∃ view titles, j.place.view? c message = some view ∧
        (rootName :: j.place.path).mapM c.title? = some titles ∧
        view.breadcrumb = Text.joinWith " > ".toList titles ∧
        titles.getLast? = some view.title ∧ view.title = m.displayTitle := by
  have hwell := Config.wellFormed_of_ofText h
  obtain ⟨hplace, -⟩ := hj.reachable
  obtain ⟨m, ho⟩ := hplace.exists_oriented hwell
  refine ⟨m, ho, fun haccepted => ?_, ho.exists_view hwell hplace⟩
  rcases hj.awaits hwell haccepted with hnil | ⟨m', hm', key, hkey, hp⟩
  · exact .inl hnil
  · cases ho.found.symm.trans hm'
    refine .inr ⟨key, hkey, hp, ?_⟩
    rintro rfl
    exact ho.keys _ hkey List.prefix_rfl

/-- Two menus that lead to one another: a command, then text that is refused in the other menu, of
which something is taken back, and then back to where the command was selected. -/
theorem oriented_cycle :
    ∃ c j m, Config.ofText ("menu root \x7b g: git \x7d ".toList ++
        "menu git \x7b st: \"s\" p: root \x7d".toList) = .ok c ∧
      Along c [.feed "gst".toList, .feed "pgsx".toList, .backspace,
        .enter "git".toList ["git".toList], .feed "s".toList] j ∧
      j.place = ⟨"git".toList, "s".toList, ["git".toList], 5⟩ ∧ j.refused = false ∧
      j.place.Oriented c m ∧ ∃ key ∈ m.keys, j.place.pending <+: key := by
  obtain ⟨c, s, j, hc, hj, hs, hmenu, hpath, hplace, hrefused⟩ :
      ∃ c s j, Config.ofText ("menu root \x7b g: git \x7d ".toList ++
        "menu git \x7b st: \"s\" p: root \x7d".toList) = .ok c ∧
      j = ((start.go c (.feed "gst".toList)).go c (.feed "pgsx".toList)).go c .backspace ∧
      j.selected = [s] ∧ s.menu = "git".toList ∧ s.path = ["git".toList] ∧
      ((j.go c (.enter s.menu s.path)).go c (.feed "s".toList)).place =
        ⟨"git".toList, "s".toList, ["git".toList], 5⟩ ∧
      ((j.go c (.enter s.menu s.path)).go c (.feed "s".toList)).refused = false :=
    ⟨⟨⟨none, true⟩, [], [⟨"root".toList, none, [("g".toList, .submenu "git".toList)]⟩,
      ⟨"git".toList, none, [("st".toList, .command ⟨[.literal "s".toList], none, false, none⟩),
        ("p".toList, .submenu "root".toList)]⟩]⟩,
      ⟨⟨[.literal "s".toList], none, false, none⟩, "st".toList, "git".toList, ["git".toList], []⟩,
      _, by cbv, rfl, by cbv, rfl, rfl, by cbv, by cbv⟩
  have hbefore := (((Along.start (c := c)).feed "gst".toList).feed "pgsx".toList).backspace
  rw [← hj] at hbefore
  have hafter := (hbefore.enter (hs ▸ List.mem_singleton_self s)).feed "s".toList
  rw [hmenu, hpath] at hafter hplace hrefused
  obtain ⟨m, ho, hpending, -⟩ := oriented hc hafter
  obtain ⟨key, hkey, hp, -⟩ := (hpending hrefused).resolve_left fun hnil =>
    List.cons_ne_nil _ _ ((congrArg Place.pending hplace).symm.trans hnil)
  exact ⟨c, _, m, hc, hafter, hplace, hrefused, ho, key, hkey, hp⟩

end Journey

end KeyMenu
