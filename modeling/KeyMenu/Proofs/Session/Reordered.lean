import KeyMenu.Proofs.Display.Reordered
import KeyMenu.Proofs.Expr.Expansion
import KeyMenu.Proofs.Navigation.Reordered
import KeyMenu.Proofs.Session.Replay

/-!
# Sessions with a configuration in another order

The order of menus, snippets and entries decides nothing but the order in which entries are shown:
two sessions that are otherwise the same end in the same way at the same place, and the same happens
in them.

* `Event.Alike`, `SessionEnd.Alike`, `Step.Alike`;
* `Config.Alike.run`: a command does the same in both configurations;
* `Session.readOn_alike`: so do typed keys;
* `Session.run_of_sameAs`: the main theorem.
-/

namespace KeyMenu

/-! ### Ends that are alike -/

/-- The events are the same, but that shown entries and logged candidates may have another order. -/
inductive Event.Alike : Event → Event → Prop
  | refl (event : Event) : Alike event event
  | shown {v w : View} (h : v.Alike w) : Alike (.shown v) (.shown w)
  | walked {a b : WalkNote} (h : a.Alike b) : Alike (.logged (.walked a)) (.logged (.walked b))

/-- The sessions end in the same way and at the same place, after events that are alike. -/
structure SessionEnd.Alike (a b : SessionEnd) : Prop where
  result : a.result = b.result
  place : a.place = b.place
  events : List.Forall₂ Event.Alike a.events b.events

/-- Both steps end, and their ends are alike, or both go on from the same moment after events that
are alike. -/
inductive Step.Alike : Step → Step → Prop
  | ends {a b : SessionEnd} (h : a.Alike b) : Alike (.ends a) (.ends b)
  | goesOn (next : Moment) {events others : List Event}
      (h : List.Forall₂ Event.Alike events others) :
      Alike (.goesOn events next) (.goesOn others next)

theorem Event.forall₂_refl (events : List Event) : List.Forall₂ Event.Alike events events :=
  List.forall₂_same.2 fun event _ => .refl event

/-- Nothing that happens is left to the order. -/
theorem Event.filter_isHappening_eq {events others : List Event}
    (h : List.Forall₂ Event.Alike events others) :
    events.filter Event.isHappening = others.filter Event.isHappening := by
  induction h with
  | nil => rfl
  | cons hevent _ ih =>
      cases hevent with
      | refl event => rw [List.filter_cons, List.filter_cons, ih]
      | shown _ | walked _ => exact ih

theorem Step.alike_refl (step : Step) : step.Alike step := by
  cases step with
  | ends ending => exact .ends ⟨rfl, rfl, Event.forall₂_refl _⟩
  | goesOn events next => exact .goesOn next (Event.forall₂_refl _)

namespace SessionEnd

variable {a b : SessionEnd}

theorem Alike.after (h : a.Alike b) {events others : List Event}
    (hevents : List.Forall₂ Event.Alike events others) : (a.after events).Alike (b.after others) :=
  ⟨h.result, h.place, List.rel_append hevents h.events⟩

/-- The same happens in both. -/
theorem Alike.happenings (h : a.Alike b) : a.happenings = b.happenings :=
  Event.filter_isHappening_eq h.events

/-- Both show the same menus, with their entries in some order. -/
theorem Alike.views (h : a.Alike b) : List.Forall₂ View.Alike a.views b.views := by
  refine List.rel_filterMap (fun event other hevent => ?_) h.events
  cases hevent with
  | refl event =>
    cases event with
    | shown view => exact .some ⟨rfl, rfl, .refl _, rfl, rfl⟩
    | _ => exact .none
  | shown hview => exact .some hview
  | walked _ => exact .none

end SessionEnd

theorem Step.Alike.after {a b : Step} (h : a.Alike b) {events others : List Event}
    (hevents : List.Forall₂ Event.Alike events others) :
    (a.after events).Alike (b.after others) := by
  cases h with
  | ends h => exact .ends (h.after hevents)
  | goesOn next h => exact .goesOn next (List.rel_append hevents h)

theorem Feed.Alike.walked {a b : Feed} (h : a.Alike b) :
    List.Forall₂ Event.Alike (Session.walked a) (Session.walked b) := by
  rw [Session.walked, Session.walked, List.forall₂_map_left_iff, List.forall₂_map_right_iff]
  exact h.notes.imp fun _ _ hnote => .walked hnote

/-! ### Commands -/

namespace Config.Alike

variable {a b : Config}

/-- A command comes to the same. -/
theorem plan (h : a.Alike b) (ha : a.WellFormed) (hb : b.WellFormed) (around : Surroundings)
    (command : Command) (values : Table Text) :
    a.plan around command values = b.plan around command values := by
  have hexpand : command.expr.expand a.snippets = command.expr.expand b.snippets :=
    Expr.expandFrom_eq_of_get?_eq (h.snippet ha hb) [] command.expr
  unfold Config.plan Config.echoes
  rw [hexpand, h.settings]

/-- A command does the same. -/
theorem run (h : a.Alike b) (ha : a.WellFormed) (hb : b.WellFormed) (around : Surroundings)
    (command : Command) (given : List Text) :
    a.run around command given = b.run around command given := by
  unfold Config.run
  simp only [h.plan ha hb]

end Config.Alike

/-! ### Sessions -/

namespace Session

/-- The session with another configuration. -/
def goingBy (s : Session) (c : Config) : Session := { s with config := c }

@[simp] theorem config_goingBy (s : Session) (c : Config) : (s.goingBy c).config = c := rfl

variable {s : Session} {other : Config}

/-- Steps that are alike are followed by ends that are alike, if this is so from every moment. -/
theorem resume_alike {a b : Step} (h : a.Alike b) (keys : List Text)
    (hread : ∀ m, (s.readOn m keys).Alike ((s.goingBy other).readOn m keys)) :
    (s.resume keys a).Alike ((s.goingBy other).resume keys b) := by
  cases h with
  | ends hends => exact hends
  | goesOn next hevents => exact (hread next).after hevents

section

variable (h : s.config.Alike other) (hs : s.config.WellFormed) (ho : other.WellFormed)
include h hs ho

/-- A selected command does the same. -/
theorem execute_goingBy (m : Moment) (place : Place) (selection : Selection) :
    (s.goingBy other).execute m place selection = s.execute m place selection := by
  have hrun : (s.goingBy other).runSelected m.given selection =
      s.runSelected m.given selection := by
    unfold runSelected
    simp only [config_goingBy, h.run hs ho]
    rfl
  unfold execute
  rw [hrun]
  rfl

omit hs ho in
/-- Keys that lead to no command fail in the same way. -/
theorem incomplete_goingBy (place : Place) (keys : Text) :
    (s.goingBy other).incomplete place keys = s.incomplete place keys := by
  unfold incomplete
  rw [config_goingBy]
  obtain ⟨hm, hn⟩ | ⟨m, n, hm, hn, halike⟩ := h.cases_menu place.menu
  · rw [hm, hn]
  · rw [hm, hn]
    simp only [halike.name]

/-- A typed key does the same. -/
theorem press_alike (m : Moment) (key : Text) :
    (s.press m key).Alike ((s.goingBy other).press m key) := by
  have hfeed := h.feed hs ho m.place key
  unfold press
  rw [config_goingBy]
  split
  · exact Step.alike_refl _
  · refine Step.Alike.after ?_ hfeed.walked
    simp only [hfeed.reading, hfeed.place, execute_goingBy h hs ho]
    exact Step.alike_refl _

/-- So do the keys that a session is started with. -/
theorem replay_alike (script : Script) (keys : Text) :
    (s.replay script keys).Alike ((s.goingBy other).replay script keys) := by
  have hfeed := h.feed hs ho Place.start keys
  unfold replay
  rw [config_goingBy]
  refine Step.Alike.after ?_ hfeed.walked
  simp only [hfeed.reading, hfeed.place, execute_goingBy h hs ho, incomplete_goingBy h]
  exact Step.alike_refl _

/-- So do all typed keys, and the menus that are shown between them are alike. -/
theorem readOn_alike (m : Moment) (typed : List Text) :
    (s.readOn m typed).Alike ((s.goingBy other).readOn m typed) := by
  induction typed generalizing m with
  | nil =>
      rw [readOn, readOn, config_goingBy]
      obtain ⟨hv, hw⟩ | ⟨v, w, hv, hw, hview⟩ := cases_of_rel (h.view? m.place m.message)
      · rw [hv, hw]
        exact ⟨rfl, rfl, .nil⟩
      · rw [hv, hw]
        exact ⟨rfl, rfl, .cons (.shown hview) .nil⟩
  | cons key keys ih =>
      obtain ⟨hv, hw⟩ | ⟨v, w, hv, hw, hview⟩ := cases_of_rel (h.view? m.place m.message)
      · rw [readOn, readOn, config_goingBy, hv, hw]
        exact ⟨rfl, rfl, .nil⟩
      · rw [readOn_cons hv, readOn_cons (s := s.goingBy other) hw]
        refine SessionEnd.Alike.after ?_ (.cons (.shown hview) .nil)
        exact resume_alike (press_alike h hs ho m key) keys ih

/-- A whole session does the same. -/
theorem run_alike (keys : Option Text) (typed : List Text) (script : Script) :
    (s.run keys typed script).Alike ((s.goingBy other).run keys typed script) := by
  have hread := fun m => readOn_alike h hs ho m typed
  unfold run
  cases keys.filter (!·.isEmpty) with
  | some keys => exact resume_alike (replay_alike h hs ho script keys) typed hread
  | none =>
      by_cases hterminal : s.interactive = true
      · have hterminal' : (s.goingBy other).interactive = true := hterminal
        rw [if_pos hterminal, if_pos hterminal']
        exact hread _
      · have hterminal' : ¬ (s.goingBy other).interactive = true := hterminal
        rw [if_neg hterminal, if_neg hterminal']
        exact ⟨rfl, rfl, .nil⟩

end

/-- **The order of menus, snippets and entries makes no difference to a session.** With two texts
that are read as the same configuration up to order, sessions that are otherwise the same end with
the same result at the same place, the same is prompted, warned, echoed and called, and the menus
that are shown differ in the order of their entries, so that the same lines are drawn in another
order. -/
theorem run_of_sameAs {text text' : Text} (h : Config.ofText text = .ok s.config)
    (h' : Config.ofText text' = .ok other) (hsame : s.config.sameAs other = true)
    (keys : Option Text) (typed : List Text) (script : Script) :
    let here := s.run keys typed script
    let there := (s.goingBy other).run keys typed script
    here.Alike there ∧ here.happenings = there.happenings ∧
      List.Forall₂ (fun v w => v.Alike w ∧ v.DrawnAlike w) here.views there.views := by
  have hs := Config.wellFormed_of_ofText h
  have ho := Config.wellFormed_of_ofText h'
  have halike := (Config.sameAs_iff_alike hs ho).1 hsame
  intro here there
  have hends : here.Alike there := run_alike halike hs ho keys typed script
  exact ⟨hends, hends.happenings, hends.views.imp fun _ _ hview => ⟨hview, hview.drawn⟩⟩

/-- Menus, snippets and entries in another order. -/
theorem run_of_sameAs_moved :
    ∃ (s : Session) (other : Config), Config.ofText
        "snippet t = \"z\" snippet u = $t
        menu root \x7b g: m x: $u \x7d menu m \x7b a: $t b: \"q\" \x7d".toList = .ok s.config ∧
      Config.ofText
        "menu m \x7b b: \"q\" a: $t \x7d menu root \x7b x: $u g: m \x7d
        snippet u = $t snippet t = \"z\"".toList = .ok other ∧
      s.config ≠ other ∧ s.config.sameAs other = true ∧
      (s.run none ["g".toList, "a".toList] ⟨[], [0]⟩).Alike
        ((s.goingBy other).run none ["g".toList, "a".toList] ⟨[], [0]⟩) := by
  obtain ⟨s, other, h, h', hne, hsame⟩ :
      ∃ (s : Session) (other : Config), Config.ofText
        "snippet t = \"z\" snippet u = $t
        menu root \x7b g: m x: $u \x7d menu m \x7b a: $t b: \"q\" \x7d".toList = .ok s.config ∧
      Config.ofText
        "menu m \x7b b: \"q\" a: $t \x7d menu root \x7b x: $u g: m \x7d
        snippet u = $t snippet t = \"z\"".toList = .ok other ∧
      s.config ≠ other ∧ s.config.sameAs other = true :=
    ⟨⟨⟨⟨none, true⟩,
          [("t".toList, [.literal "z".toList]), ("u".toList, [.reference "t".toList])],
          [⟨"root".toList, none, [("g".toList, .submenu "m".toList),
              ("x".toList, .command ⟨[.reference "u".toList], none, false, none⟩)]⟩,
            ⟨"m".toList, none, [("a".toList, .command ⟨[.reference "t".toList], none, false, none⟩),
              ("b".toList, .command ⟨[.literal "q".toList], none, false, none⟩)]⟩]⟩,
        ⟨[], none⟩, .stay, [], true⟩,
      ⟨⟨none, true⟩,
        [("u".toList, [.reference "t".toList]), ("t".toList, [.literal "z".toList])],
        [⟨"m".toList, none, [("b".toList, .command ⟨[.literal "q".toList], none, false, none⟩),
            ("a".toList, .command ⟨[.reference "t".toList], none, false, none⟩)]⟩,
          ⟨"root".toList, none,
            [("x".toList, .command ⟨[.reference "u".toList], none, false, none⟩),
              ("g".toList, .submenu "m".toList)]⟩]⟩,
      by cbv, by cbv, by decide, by cbv⟩
  exact ⟨s, other, h, h', hne, hsame, (run_of_sameAs h h' hsame none _ _).1⟩

end Session

end KeyMenu
