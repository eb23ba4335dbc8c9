import KeyMenu.Display.View
import KeyMenu.Proofs.Navigation.Reachable

/-!
# Something to show everywhere

At every place that can be reached, all menus that have to be named exist, so that there is a view
of it (`Place.Reachable.exists_view`). What a view is made of is said by `Place.view?_eq_some_iff`.
-/

namespace KeyMenu

/-- Where each member has a value, so has the whole list. -/
theorem exists_mapM {α β : Type} {f : α → Option β} {l : List α} (h : ∀ a ∈ l, ∃ b, f a = some b) :
    ∃ bs, l.mapM f = some bs := by
  induction l with
  | nil => exact ⟨[], rfl⟩
  | cons a l ih =>
      obtain ⟨b, hb⟩ := h a List.mem_cons_self
      obtain ⟨bs, hbs⟩ := ih fun a' ha' => h a' (List.mem_cons_of_mem _ ha')
      exact ⟨b :: bs, by simp [List.mapM_cons, hb, hbs]⟩

/-- A list has values exactly if these are the values of its members. -/
theorem mapM_eq_some_iff {α β : Type} {f : α → Option β} {l : List α} {bs : List β} :
    l.mapM f = some bs ↔ l.map f = bs.map some := by
  induction l generalizing bs with
  | nil => cases bs <;> simp
  | cons a l ih =>
      cases ha : f a with
      | none => cases bs <;> simp [List.mapM_cons, ha]
      | some b =>
          cases bs with
          | nil => cases hl : l.mapM f <;> simp [List.mapM_cons, ha, hl]
          | cons b' bs =>
              rw [List.map_cons, List.map_cons, List.cons.injEq, ← ih, List.mapM_cons, ha]
              cases hl : l.mapM f <;> simp

/-- What is shown at a place: the menu that stands there, the titles on the way to it, and its
entries. -/
theorem Place.view?_eq_some_iff {c : Config} {p : Place} {message : Option Text} {view : View} :
    p.view? c message = some view ↔
      ∃ m breadcrumb entries, c.menu? p.menu = some m ∧ c.breadcrumb? p.path = some breadcrumb ∧
        c.visibleEntries? m = some entries ∧
          view = ⟨m.displayTitle, breadcrumb, entries, p.pending, message⟩ := by
  cases hm : c.menu? p.menu with
  | none => simp [view?, hm]
  | some m =>
      cases hb : c.breadcrumb? p.path with
      | none => simp [view?, hm, hb]
      | some breadcrumb =>
          cases he : c.visibleEntries? m <;> simp [view?, hm, hb, he, eq_comm]

namespace Config

variable {c : Config}

theorem exists_title {name : Text} (h : ∃ m, c.menu? name = some m) :
    ∃ title, c.title? name = some title := by
  obtain ⟨m, hm⟩ := h
  exact ⟨m.displayTitle, by rw [title?, hm, Option.map_some]⟩

/-- Every menu that an entry of an existing menu names has a title to be shown. -/
theorem exists_visibleEntries (h : c.WellFormed) {m : Menu} (hm : m ∈ c.menus) :
    ∃ entries, c.visibleEntries? m = some entries := by
  refine exists_mapM fun p hp => ?_
  obtain ⟨key, entry⟩ := p
  cases entry with
  | command command => exact ⟨_, rfl⟩
  | submenu name =>
      obtain ⟨title, htitle⟩ := exists_title (h.soundGraph.submenus m hm key name hp)
      refine ⟨⟨key, title, .menu⟩, ?_⟩
      unfold visibleEntry?
      simp only [htitle, Option.map_some]

/-- Every menu on a route has a title to be shown. -/
theorem Route.exists_breadcrumb (h : c.WellFormed) {path : List Text} {menu : Text}
    (hr : c.Route path menu) : ∃ breadcrumb, c.breadcrumb? path = some breadcrumb := by
  have htitles : ∀ name ∈ rootName :: path, ∃ title, c.title? name = some title := by
    intro name hname
    rcases List.mem_cons.1 hname with rfl | hname
    · exact exists_title h.soundGraph.root
    · exact exists_title (hr.exists_of_mem h name hname)
  obtain ⟨titles, htitles⟩ := exists_mapM htitles
  exact ⟨_, by rw [breadcrumb?, htitles, Option.map_some]⟩

end Config

/-- At every place that can be reached there is something to show. -/
theorem Place.Reachable.exists_view {c : Config} {p : Place} (h : c.WellFormed)
    (hp : p.Reachable c) (message : Option Text) : ∃ view, p.view? c message = some view := by
  obtain ⟨m, hm⟩ := (hp.route h).exists_menu h
  obtain ⟨breadcrumb, hbreadcrumb⟩ := (hp.route h).exists_breadcrumb h
  obtain ⟨entries, hentries⟩ := Config.exists_visibleEntries h (c.mem_of_menu? hm)
  exact ⟨_, view?_eq_some_iff.2 ⟨m, breadcrumb, entries, hm, hbreadcrumb, hentries, rfl⟩⟩

end KeyMenu
