import KeyMenu.Proofs.Display.View
import KeyMenu.Proofs.Navigation.Feed
import KeyMenu.Session.Basic

/-!
# Keys given and keys typed

A session that is started with keys does what it would do if they were typed one by one, only that
nothing is shown while they are read. This holds for keys that are used up: all of them make keys
of entries, or the beginning of one.

* `SessionEnd.told`, `SessionEnd.views`, `SessionEnd.happenings`: what can be seen of a session;
* `SessionEnd.Behind`: the one session is the other one without its first views;
* `Session.behind_readOn`: typing a text code point by code point;
* `Session.run_given_behind_typed`: the main theorem.
-/

namespace KeyMenu

/-! ### What can be seen -/

namespace Event

/-- The menu that is shown. -/
def view? : Event → Option View
  | .shown view => some view
  | _ => none

/-- Something that does not only go to the log. -/
def isTold : Event → Bool
  | .logged _ => false
  | _ => true

/-- A prompt, a warning, an echoed command or a call. -/
def isHappening : Event → Bool
  | .shown _ => false
  | .logged _ => false
  | _ => true

end Event

namespace SessionEnd

/-- All that can be seen of a session without its log, in order. -/
def told (e : SessionEnd) : List Event := e.events.filter Event.isTold

/-- The menus that a session shows, in order. -/
def views (e : SessionEnd) : List View := e.events.filterMap Event.view?

/-- The prompts, warnings, echoed commands and calls of a session, in order. -/
def happenings (e : SessionEnd) : List Event := e.events.filter Event.isHappening

/-- The one session ends like the other, and what can be seen of it is what can be seen of the
other behind as many views. -/
structure Behind (count : Nat) (later whole : SessionEnd) : Prop where
  result : later.result = whole.result
  place : later.place = whole.place
  told : ∃ shown : List View, shown.length = count ∧ whole.told = shown.map .shown ++ later.told

theorem views_eq_told (e : SessionEnd) : e.views = e.told.filterMap Event.view? := by
  rw [views, told, List.filterMap_filter]
  refine List.filterMap_congr fun event _ => ?_
  cases event <;> rfl

theorem happenings_eq_told (e : SessionEnd) : e.happenings = e.told.filter Event.isHappening := by
  rw [happenings, told, List.filter_filter]
  refine List.filter_congr fun event _ => ?_
  cases event <;> rfl

theorem told_after (events : List Event) (e : SessionEnd) :
    (e.after events).told = events.filter Event.isTold ++ e.told :=
  List.filter_append ..

namespace Behind

variable {count : Nat} {later whole : SessionEnd}

/-- The views are those of the other session without the first ones. -/
theorem views (h : Behind count later whole) : later.views = whole.views.drop count := by
  obtain ⟨shown, hlength, htold⟩ := h.told
  have hshown : (shown.map Event.shown).filterMap Event.view? = shown := by
    rw [List.filterMap_map]
    exact List.filterMap_some
  rw [views_eq_told, views_eq_told, htold, List.filterMap_append, hshown, ← hlength, List.drop_left]

/-- Nothing else happens, and it happens in the same order. -/
theorem happenings (h : Behind count later whole) : later.happenings = whole.happenings := by
  obtain ⟨shown, -, htold⟩ := h.told
  have hshown : (shown.map Event.shown).filter Event.isHappening = [] := by
    rw [List.filter_eq_nil_iff]
    intro event hevent
    obtain ⟨view, -, rfl⟩ := List.mem_map.1 hevent
    exact Bool.false_ne_true
  rw [happenings_eq_told, happenings_eq_told, htold, List.filter_append, hshown, List.nil_append]

/-- One more view, and what is logged about it, stand in front. -/
theorem shown (h : Behind count later whole) (view : View) {logged : List Event}
    (hlogged : logged.filter Event.isTold = []) :
    Behind (count + 1) later ((whole.after logged).after [.shown view]) := by
  obtain ⟨shown, hlength, htold⟩ := h.told
  refine ⟨h.result, h.place, view :: shown, by rw [List.length_cons, hlength], ?_⟩
  rw [told_after, told_after, hlogged, htold]
  rfl

/-- What is logged before makes no difference. -/
theorem logged (h : Behind count later whole) {logged : List Event}
    (hlogged : logged.filter Event.isTold = []) : Behind count (later.after logged) whole := by
  refine ⟨h.result, h.place, ?_⟩
  rw [told_after, hlogged]
  exact h.told

end Behind

theorem behind_refl (e : SessionEnd) : Behind 0 e e := ⟨rfl, rfl, [], rfl, rfl⟩

@[simp] theorem after_nil (e : SessionEnd) : e.after [] = e := rfl

theorem after_after (a b : List Event) (e : SessionEnd) :
    (e.after b).after a = e.after (a ++ b) := by
  rw [after, after, after, List.append_assoc]

end SessionEnd

/-! ### Text that is used up -/

/-- The typed text waits for more, or selects a command and has nothing behind its key. -/
def Reading.UsedUp : Reading → Prop
  | .waiting => True
  | .selected selection => selection.remainder = []
  | .unmatched _ => False
  | .missingMenu _ => False

/-- Text that is used up is read to its end, code point by code point as well. -/
theorem Typing.EndsLike.eq_of_usedUp {t : Typing} {whole : Feed} (h : t.EndsLike whole)
    (hused : whole.reading.UsedUp) : t = ⟨whole.reading, whole.place, []⟩ := by
  obtain ⟨reading, place, notes⟩ := whole
  cases reading with
  | waiting => exact h
  | selected selection =>
      obtain ⟨command, key, menu, path, remainder⟩ := selection
      cases hused
      exact h
  | unmatched error => exact hused.elim
  | missingMenu name => exact hused.elim

namespace Session

variable {s : Session} {m : Moment}

/-! ### Steps -/

theorem resume_after (s : Session) (keys : List Text) (events : List Event) (step : Step) :
    s.resume keys (step.after events) = (s.resume keys step).after events := by
  cases step with
  | ends ending => rfl
  | goesOn more next => exact (SessionEnd.after_after events more _).symm

/-- Reading a key shows the menu and goes on from what the key does. -/
theorem readOn_cons {view : View} (hview : m.place.view? s.config m.message = some view)
    (key : Text) (keys : List Text) :
    s.readOn m (key :: keys) = (s.resume keys (s.press m key)).after [.shown view] := by
  rw [readOn, hview]
  cases s.press m key with
  | ends ending => rfl
  | goesOn events next => exact (SessionEnd.after_after [.shown view] events _).symm

/-- What is logged about typing is not told. -/
theorem filter_isTold_walked (feed : Feed) : (walked feed).filter Event.isTold = [] := by
  rw [List.filter_eq_nil_iff]
  intro event hevent
  obtain ⟨note, -, rfl⟩ := List.mem_map.1 hevent
  exact Bool.false_ne_true

/-- Where typed text leads that is used up: a selected command is run, and otherwise reading goes
on. -/
def follow (s : Session) (m : Moment) (place : Place) : Reading → Step
  | .selected selection => s.execute m place selection
  | _ => .goesOn [] { m with place := place, message := none }

theorem press_of_waiting {key : Text} (hkey : isBackspace key = false)
    (hw : (m.place.feed s.config key).reading = .waiting) :
    s.press m key = (Step.goesOn [] { m with
      place := (m.place.feed s.config key).place, message := none }).after
        (walked (m.place.feed s.config key)) := by
  rw [press, if_neg (Bool.eq_false_iff.1 hkey)]
  simp only [hw]

theorem press_of_selected {key : Text} {selection : Selection} (hkey : isBackspace key = false)
    (hs : (m.place.feed s.config key).reading = .selected selection) :
    s.press m key = (s.execute m (m.place.feed s.config key).place selection).after
      (walked (m.place.feed s.config key)) := by
  rw [press, if_neg (Bool.eq_false_iff.1 hkey)]
  simp only [hs]

/-- Keys that a session is started with lead where they lead when they are typed. -/
theorem replay_of_usedUp (hterminal : s.interactive = true) (script : Script) {keys : Text}
    (hused : (Place.start.feed s.config keys).reading.UsedUp) :
    s.replay script keys =
      (s.follow (s.opening script) (Place.start.feed s.config keys).place
        (Place.start.feed s.config keys).reading).after
          (walked (Place.start.feed s.config keys)) := by
  rw [replay]
  cases hreading : (Place.start.feed s.config keys).reading with
  | waiting =>
      simp only [if_pos hterminal]
      rfl
  | selected selection => rfl
  | unmatched error | missingMenu name =>
      rw [hreading] at hused
      exact hused.elim

/-! ### Code point by code point -/

/-- Typing a text that is used up, one code point after another, shows as many views and leads
where the text leads. -/
theorem behind_readOn (h : s.config.WellFormed) (hp : m.place.Reachable s.config)
    (hmessage : m.message = none) {text : Text} (hchars : ∀ char ∈ text, isBackspace [char] = false)
    {reading : Reading} {place : Place} (hused : reading.UsedUp)
    (heach : m.place.feedEach s.config text = ⟨reading, place, []⟩) (typed : List Text) :
    SessionEnd.Behind text.length (s.resume typed (s.follow m place reading))
      (s.readOn m (text.map ([·]) ++ typed)) := by
  induction text generalizing m with
  | nil =>
      cases heach
      have hsame : s.resume typed (s.follow m m.place .waiting) = s.readOn m typed := by
        obtain ⟨start, message, given, script⟩ := m
        cases hmessage
        exact SessionEnd.after_nil _
      rw [hsame]
      exact SessionEnd.behind_refl _
  | cons char rest ih =>
      obtain ⟨view, hview⟩ := hp.exists_view h m.message
      have hchar : isBackspace [char] = false := hchars char List.mem_cons_self
      have hlogged := filter_isTold_walked (m.place.feed s.config [char])
      rw [List.map_cons, List.cons_append, readOn_cons hview]
      rw [Place.feedEach] at heach
      cases hreading : (m.place.feed s.config [char]).reading with
      | waiting =>
          simp only [hreading] at heach
          have hrest := ih (m := { m with
              place := (m.place.feed s.config [char]).place, message := none })
            (hp.feed [char]) rfl (fun c hc => hchars c (List.mem_cons_of_mem _ hc)) heach
          -- what is done in the end does not depend on the place and the message before
          have hfollow : s.follow { m with
              place := (m.place.feed s.config [char]).place, message := none } place reading =
                s.follow m place reading := by
            cases reading <;> rfl
          rw [hfollow] at hrest
          rw [press_of_waiting hchar hreading, resume_after]
          exact hrest.shown view hlogged
      | selected selection =>
          simp only [hreading, Typing.mk.injEq] at heach
          obtain ⟨rfl, rfl, rfl⟩ := heach
          rw [press_of_selected hchar hreading, resume_after]
          exact (SessionEnd.behind_refl _).shown view hlogged
      | unmatched error | missingMenu name =>
          simp only [hreading, Typing.mk.injEq] at heach
          obtain ⟨rfl, -, -⟩ := heach
          exact hused.elim

/-- The start can be reached, and nothing is wrong there. -/
theorem feedEach_start_endsLike (h : s.config.WellFormed) (keys : Text) :
    (Place.start.feedEach s.config keys).EndsLike (Place.start.feed s.config keys) := by
  refine (Place.Reachable.start.settled h).feedEach_endsLike h ?_ keys
  rintro ⟨error, herror⟩
  rw [Place.feed_eq_settle, Place.extend_nil, Place.settle_of_pending_nil _ rfl] at herror
  cases herror

/-- **A session that is started with keys does what it does when they are typed one by one.** If
the keys are used up and no code point is taken back, it ends in the same way and at the same
place, the same happens in the same order, and it shows the same menus but for those that are shown
while the keys are read. -/
theorem run_given_behind_typed {text : Text} (h : Config.ofText text = .ok s.config)
    (hterminal : s.interactive = true) {keys : Text} (hne : keys ≠ []) (hdelete : '\x7f' ∉ keys)
    (hbackspace : '\x08' ∉ keys) (hused : (Place.start.feed s.config keys).reading.UsedUp)
    (typed : List Text) (script : Script) :
    let given := s.run (some keys) typed script
    let asked := s.run none (keys.map ([·]) ++ typed) script
    SessionEnd.Behind keys.length given asked ∧ given.happenings = asked.happenings ∧
      given.views = asked.views.drop keys.length := by
  intro given asked
  have hwell := Config.wellFormed_of_ofText h
  have hchars : ∀ char ∈ keys, isBackspace [char] = false := by
    intro char hchar
    have hnot : char ≠ '\x7f' ∧ char ≠ '\x08' :=
      ⟨fun he => hdelete (he ▸ hchar), fun he => hbackspace (he ▸ hchar)⟩
    simp [isBackspace, hnot]
  have hgiven : given = s.resume typed (s.replay script keys) := by
    have hfilter : (some keys).filter (!·.isEmpty) = some keys := by
      simp [Option.filter, hne]
    simp only [given, run, hfilter]
  have hasked : asked = s.readOn (s.opening script) (keys.map ([·]) ++ typed) := by
    simp only [asked, run, Option.filter_none]
    exact if_pos hterminal
  have hbehind : SessionEnd.Behind keys.length given asked := by
    rw [hgiven, hasked, replay_of_usedUp hterminal script hused, resume_after]
    have heach := (feedEach_start_endsLike hwell keys).eq_of_usedUp hused
    exact (behind_readOn hwell .start rfl hchars hused heach typed).logged (filter_isTold_walked _)
  exact ⟨hbehind, hbehind.happenings, hbehind.views⟩

/-- A command that repeats, selected by the keys that the session is started with. -/
theorem run_given_behind_typed_repeat :
    ∃ s : Session, Config.ofText
        "menu root \x7b g: root x: cmd \x7b set repeat \"y\" \x7d \x7d".toList = .ok s.config ∧
      s.interactive = true ∧ (Place.start.feed s.config "gx".toList).reading.UsedUp ∧
      SessionEnd.Behind 2 (s.run (some "gx".toList) ["x".toList] ⟨[], [0, 1]⟩)
        (s.run none ["g".toList, "x".toList, "x".toList] ⟨[], [0, 1]⟩) := by
  obtain ⟨s, selection, hs, hterminal, hselected, hremainder⟩ :
      ∃ (s : Session) (selection : Selection), Config.ofText
        "menu root \x7b g: root x: cmd \x7b set repeat \"y\" \x7d \x7d".toList = .ok s.config ∧
      s.interactive = true ∧
      (Place.start.feed s.config "gx".toList).reading = .selected selection ∧
      selection.remainder = [] :=
    ⟨⟨⟨⟨none, true⟩, [], [⟨"root".toList, none, [("g".toList, .submenu "root".toList),
        ("x".toList, .command ⟨[.literal "y".toList], none, false,
          some ⟨true, false, [], none⟩⟩)]⟩]⟩, ⟨[], none⟩, .stay, [], true⟩,
      ⟨⟨[.literal "y".toList], none, false, some ⟨true, false, [], none⟩⟩, "x".toList,
        "root".toList, ["root".toList], []⟩,
      by cbv, rfl, by cbv, rfl⟩
  have hused : (Place.start.feed s.config "gx".toList).reading.UsedUp := by
    rw [hselected]
    exact hremainder
  obtain ⟨hbehind, -, -⟩ := run_given_behind_typed hs hterminal (by decide) (by decide) (by decide)
    hused ["x".toList] ⟨[], [0, 1]⟩
  exact ⟨s, hs, hterminal, hused, hbehind⟩

end Session

end KeyMenu
