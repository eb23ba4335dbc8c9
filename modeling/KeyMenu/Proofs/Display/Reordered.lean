import KeyMenu.Display.Screen
import KeyMenu.Proofs.Config.Reordered

/-!
# Menus that are shown in another order

Two configurations that differ in nothing but the order show the same titles, and the same entries
in another order. The column of the keys is as wide, so that the same lines are drawn.

* `View.Alike`, `Config.Alike.view?`;
* `View.heading`, `View.entryLines`, `View.footing`: a drawn menu in parts;
* `View.DrawnAlike`, `View.Alike.drawn`.
-/

namespace KeyMenu

/-- Values of the members of a list are there for any order of it, and in that order. -/
theorem mapM_rel_of_perm {α β : Type} (f : α → Option β) {l l' : List α} (h : l.Perm l') :
    Option.Rel List.Perm (l.mapM f) (l'.mapM f) := by
  induction h with
  | nil => exact .some .nil
  | cons a _ ih =>
      rw [List.mapM_cons, List.mapM_cons]
      cases f a with
      | none => exact .none
      | some b =>
          obtain ⟨hl, hl'⟩ | ⟨bs, bs', hl, hl', hperm⟩ := cases_of_rel ih
          · rw [hl, hl']
            exact .none
          · rw [hl, hl']
            exact .some (hperm.cons b)
  | swap a a' l =>
      simp only [List.mapM_cons]
      cases f a' with
      | none => cases f a <;> exact .none
      | some b' =>
          cases f a with
          | none => exact .none
          | some b =>
              cases l.mapM f with
              | none => exact .none
              | some bs => exact .some (.swap b b' bs)
  | trans _ _ ih ih' =>
      obtain ⟨hl, hmid⟩ | ⟨bs, mid, hl, hmid, hperm⟩ := cases_of_rel ih
      · rw [hmid] at ih'
        rw [hl]
        exact ih'
      · rw [hmid] at ih'
        obtain ⟨hnone, -⟩ | ⟨mid', bs', hmid', hl', hperm'⟩ := cases_of_rel ih'
        · cases hnone
        · cases hmid'
          rw [hl, hl']
          exact .some (hperm.trans hperm')

/-! ### Views -/

/-- The views differ in the order of their entries only. -/
structure View.Alike (v w : View) : Prop where
  title : v.title = w.title
  breadcrumb : v.breadcrumb = w.breadcrumb
  entries : v.entries.Perm w.entries
  pending : v.pending = w.pending
  message : v.message = w.message

namespace Config.Alike

variable {a b : Config}

theorem title?_eq (h : a.Alike b) : a.title? = b.title? := by
  funext name
  rw [title?, title?]
  obtain ⟨hm, hn⟩ | ⟨m, n, hm, hn, halike⟩ := h.cases_menu name
  · rw [hm, hn]
  · rw [hm, hn, Option.map_some, Option.map_some, halike.displayTitle]

theorem visibleEntry?_eq (h : a.Alike b) : a.visibleEntry? = b.visibleEntry? := by
  funext key entry
  cases entry with
  | submenu name =>
      unfold visibleEntry?
      simp only [h.title?_eq]
  | command command => rfl

/-- What is shown at a place: in both configurations there is nothing, or the views differ in the
order of their entries only. -/
theorem view? (h : a.Alike b) (p : Place) (message : Option Text) :
    Option.Rel View.Alike (p.view? a message) (p.view? b message) := by
  unfold Place.view? breadcrumb? visibleEntries?
  rw [h.title?_eq, h.visibleEntry?_eq]
  obtain ⟨hm, hn⟩ | ⟨m, n, hm, hn, halike⟩ := h.cases_menu p.menu
  · rw [hm, hn]
    exact .none
  · rw [hm, hn]
    cases (rootName :: p.path).mapM b.title? with
    | none => exact .none
    | some titles =>
        have hentries := mapM_rel_of_perm (fun p => visibleEntry? b p.1 p.2) halike.entries
        obtain ⟨he, he'⟩ | ⟨entries, entries', he, he', hperm⟩ := cases_of_rel hentries
        · simp [he, he']
        · simp only [Option.map_some, Option.bind_eq_bind, Option.bind_some, he, he']
          exact .some ⟨halike.displayTitle, rfl, hperm, rfl, rfl⟩

end Config.Alike

/-! ### Drawn menus -/

namespace View

/-- The line above the entries. -/
def heading (v : View) : List Fragment := [⟨.breadcrumb, v.breadcrumb⟩, ⟨.plain, ['\n']⟩]

/-- The lines of the entries. -/
def entryLines (v : View) : List (List Fragment) :=
  v.entries.map (VisibleEntry.fragments v.pending v.keyWidth)

/-- What stands below the entries: the message, and what has been typed. -/
def footing (v : View) : List Fragment :=
  (match v.message with
    | some (c :: text) => [⟨.error, c :: text ++ ['\n']⟩]
    | _ => []) ++
  (if v.pending.isEmpty then [] else [⟨.pending, v.pending⟩])

theorem fragments_eq (v : View) :
    v.fragments = v.heading ++ v.entryLines.flatten ++ v.footing := by
  rw [entryLines, ← List.flatMap_def]
  exact List.append_assoc (v.heading ++ v.entries.flatMap _) _ _

/-- The drawn menus differ in the order of the lines of their entries only. -/
structure DrawnAlike (v w : View) : Prop where
  heading : v.heading = w.heading
  entryLines : v.entryLines.Perm w.entryLines
  footing : v.footing = w.footing

variable {v w : View}

theorem Alike.keyWidth (h : v.Alike w) : v.keyWidth = w.keyWidth :=
  (h.entries.map _).foldl_eq 0

/-- The same lines are drawn, in another order. -/
theorem Alike.drawn (h : v.Alike w) : v.DrawnAlike w := by
  refine ⟨?_, ?_, ?_⟩
  · rw [heading, heading, h.breadcrumb]
  · rw [entryLines, entryLines, h.pending, h.keyWidth]
    exact h.entries.map _
  · rw [footing, footing, h.message, h.pending]

end View

end KeyMenu
