import KeyMenu.Proofs.Display.View
import KeyMenu.Proofs.Run.Failure
import KeyMenu.Session.Basic
import Mathlib

/-!
# How sessions can fail

What is checked when a configuration is read is enough for all sessions with it: no menu is missed,
every command expands, and what is left to fail is what a person, a process or the environment does.

* `lastSelected`; `Session.CanFail`: the failures that are left;
* `Session.Sound`: what every step keeps up;
* `Session.run_canFail`: the main theorem.
-/

namespace KeyMenu

/-- The key and the menu of the command that was selected last. -/
def lastSelected (events : List Event) : Option (Text × Text) :=
  (events.filterMap Event.selected?).getLast?

theorem lastSelected_append {more : List Event} {found : Text × Text} (events : List Event)
    (h : lastSelected more = some found) : lastSelected (events ++ more) = some found := by
  rw [lastSelected] at h
  rw [lastSelected, List.filterMap_append, List.getLast?_append, h, Option.some_or]

namespace Session

/-- How a session can fail, given the keys it is started with and what has happened. No entry may
match, the values for a command may not split, someone may interrupt, keys may be missing where
there is no terminal; and the command that was selected last may fail as commands do. -/
inductive CanFail (s : Session) (keys : Option Text) (events : List Event) : Failure → Prop
  | unmatched (error : UnmatchedKeys) : CanFail s keys events (.unmatched error)
  | unsplittable (error : Text.UnsplittableText) : CanFail s keys events (.unsplittable error)
  | interrupted : CanFail s keys events .interrupted
  | noKeys (hkeys : keys.filter (!·.isEmpty) = none) (hterminal : s.interactive = false) :
      CanFail s keys events .noKeys
  | running {key menu : Text} {m : Menu} {command : Command} {failure : Failure}
      (hlast : lastSelected events = some (key, menu)) (hm : s.config.menu? menu = some m)
      (he : (key, .command command) ∈ m.entries)
      (hf : s.config.RunFailure s.around command failure) : CanFail s keys events failure

/-- A step goes on at a place that can be reached, or ends as a session can. -/
def Sound (s : Session) (keys : Option Text) : Step → Prop
  | .ends ending =>
      ∀ failure, ending.result = .error failure → s.CanFail keys ending.events failure
  | .goesOn _ next => next.place.Reachable s.config

variable {s : Session} {keys : Option Text}

theorem CanFail.after {events : List Event} {failure : Failure}
    (h : s.CanFail keys events failure) (before : List Event) :
    s.CanFail keys (before ++ events) failure := by
  cases h with
  | unmatched error => exact .unmatched error
  | unsplittable error => exact .unsplittable error
  | interrupted => exact .interrupted
  | noKeys hkeys hterminal => exact .noKeys hkeys hterminal
  | running hlast hm he hf => exact .running (lastSelected_append before hlast) hm he hf

theorem Sound.after {step : Step} (h : s.Sound keys step) (before : List Event) :
    s.Sound keys (step.after before) := by
  cases step with
  | ends ending => exact fun failure hf => (h failure hf).after before
  | goesOn events next => exact h

/-! ### Running a selected command -/

/-- Running a command fails because its values do not split, or as commands do. -/
theorem runSelected_failsOnly (h : s.config.WellFormed) {selection : Selection}
    (hrefs : ∀ name ∈ selection.command.expr.references, ∃ e, s.config.snippets.get? name = some e)
    (given : List Text) :
    (s.runSelected given selection).FailsOnly fun failure =>
      (∃ error, failure = .unsplittable error) ∨
        s.config.RunFailure s.around selection.command failure := by
  refine Act.FailsOnly.bind (Act.failsOnly_ofExcept fun failure hf => ?_) fun values => ?_
  · rw [values] at hf
    cases hwords : selection.remainder.arguments with
    | ok words =>
        rw [hwords] at hf
        cases hf
    | error error =>
        rw [hwords] at hf
        cases hf
        exact .inl ⟨error, rfl⟩
  · exact (Config.run_failsOnly h hrefs values).mono fun failure => .inr

/-- Behind the notes on a selected command, that command is the last one selected. -/
theorem lastSelected_walked {feed : Feed} {entered : List WalkNote} {key menu : Text}
    (hnotes : feed.notes = entered ++ [.command key menu]) {events : List Event}
    (h : ∀ event ∈ events, event.selected? = none) :
    lastSelected (walked feed ++ events) = some (key, menu) := by
  have hnone : events.filterMap Event.selected? = [] := List.filterMap_eq_nil_iff.2 h
  rw [lastSelected, List.filterMap_append, hnone, List.append_nil, walked, hnotes, List.map_append,
    List.filterMap_append, List.getLast?_append]
  rfl

theorem execute_sound (h : s.config.WellFormed) {p : Place} (hp : p.Reachable s.config)
    {text : Text} {selection : Selection}
    (hs : (p.feed s.config text).reading = .selected selection) (m : Moment) :
    s.Sound keys ((s.execute m (p.feed s.config text).place selection).after
      (walked (p.feed s.config text))) := by
  obtain ⟨hroute, menu, hmenu, hentry⟩ := Place.route_of_selected h (hp.route h) hs
  obtain ⟨start, hstart⟩ := (hp.settled h).exists_menu
  obtain ⟨entered, hnotes⟩ := Place.notes_of_selected h hstart hs
  have hrefs := h.soundGraph.references menu (s.config.mem_of_menu? hmenu) _ _ hentry
  have hfails := runSelected_failsOnly h hrefs m.given
  rw [execute]
  cases hresult : ((s.runSelected m.given selection).run m.script).result with
  | error failure =>
      intro failure' hf
      cases hf
      -- While a command runs, no other one is selected, so that the last one is still this one.
      rcases hfails.failure m.script failure hresult with ⟨error, rfl⟩ | hrun
      · exact .unsplittable error
      · exact .running (lastSelected_walked hnotes (hfails.events m.script)) hmenu hentry hrun
  | ok status =>
      simp only
      split
      · exact .enter (hp.feed text) hp hs
      · exact fun failure hf => nomatch hf

/-! ### Reading keys -/

theorem recover_sound {m : Moment} {place : Place} (hp : place.Reachable s.config)
    (error : UnmatchedKeys) : s.Sound keys (s.recover m place error) := by
  rw [recover]
  cases s.policy with
  | exit =>
      intro failure hf
      cases hf
      exact .unmatched error
  | reset => exact hp.reset
  | stay => exact hp.clearPending

/-- A key leads from a place that can be reached to another one, or ends the session as it can
end. -/
theorem press_sound (h : s.config.WellFormed) {m : Moment} (hm : m.place.Reachable s.config)
    (key : Text) : s.Sound keys (s.press m key) := by
  rw [press]
  split
  · exact hm.backspace
  · dsimp only
    cases hreading : (m.place.feed s.config key).reading with
    | waiting => exact hm.feed key
    | selected selection => exact execute_sound h hm hreading m
    | unmatched error => exact (recover_sound (hm.feed key) error).after _
    | missingMenu name =>
        obtain ⟨menu, hmenu⟩ := (hm.settled h).exists_menu
        exact absurd hreading (Place.feed_ne_missingMenu h hmenu key name)

/-- However many keys are read, the session ends as it can end. -/
theorem readOn_canFail (h : s.config.WellFormed) {m : Moment} (hm : m.place.Reachable s.config)
    (typed : List Text) {failure : Failure} (hf : (s.readOn m typed).result = .error failure) :
    s.CanFail keys (s.readOn m typed).events failure := by
  induction typed generalizing m with
  | nil =>
      obtain ⟨view, hview⟩ := hm.exists_view h m.message
      rw [readOn, hview] at hf ⊢
      cases hf
      exact .interrupted
  | cons key typed ih =>
      obtain ⟨view, hview⟩ := hm.exists_view h m.message
      rw [readOn, hview] at hf ⊢
      have hstep : s.Sound keys (s.press m key) := press_sound h hm key
      cases hpress : s.press m key with
      | ends ending =>
          rw [hpress] at hstep
          simp only [hpress] at hf ⊢
          exact (hstep failure hf).after [.shown view]
      | goesOn events next =>
          rw [hpress] at hstep
          simp only [hpress] at hf ⊢
          exact (ih hstep hf).after (.shown view :: events)

theorem resume_canFail (h : s.config.WellFormed) {step : Step} (hstep : s.Sound keys step)
    (typed : List Text) {failure : Failure} (hf : (s.resume typed step).result = .error failure) :
    s.CanFail keys (s.resume typed step).events failure := by
  cases step with
  | ends ending => exact hstep failure hf
  | goesOn events next => exact (readOn_canFail h hstep typed hf).after events

/-! ### The whole -/

theorem replay_sound (h : s.config.WellFormed) (script : Script) (typed : Text) :
    s.Sound keys (s.replay script typed) := by
  obtain ⟨root, hroot⟩ := h.soundGraph.root
  have hplace : (Place.start.feed s.config typed).place.Reachable s.config := .feed .start typed
  rw [replay]
  cases hreading : (Place.start.feed s.config typed).reading with
  | waiting =>
      refine Sound.after ?_ _
      simp only
      split
      · exact hplace
      · intro failure hf
        obtain ⟨menu, hmenu⟩ := (hplace.settled h).exists_menu
        rw [incomplete, hmenu] at hf
        cases hf
        exact .unmatched _
  | selected selection => exact execute_sound h .start hreading _
  | unmatched error =>
      intro failure hf
      cases hf
      exact .unmatched error
  | missingMenu name => exact absurd hreading (Place.feed_ne_missingMenu h hroot typed name)

/-- **Whatever is typed and answered, a session with a configuration that has been read ends well
or fails in one of the ways that are left.** No menu is missing, every command expands, and only a
command without a shell, in a file without a shell, can fail for the shell of the environment. -/
theorem run_canFail {text : Text} (h : Config.ofText text = .ok s.config) (keys : Option Text)
    (typed : List Text) (script : Script) :
    (s.run keys typed script).result = .ok () ∨
      ∃ failure, (s.run keys typed script).result = .error failure ∧
        s.CanFail keys (s.run keys typed script).events failure := by
  have hwell := Config.wellFormed_of_ofText h
  -- Whether keys are replayed or typed, the session begins at the start, which can be reached.
  have hrun : ∀ failure, (s.run keys typed script).result = .error failure →
      s.CanFail keys (s.run keys typed script).events failure := by
    intro failure hf
    rw [run] at hf ⊢
    cases hkeys : keys.filter (!·.isEmpty) with
    | some replayed =>
        simp only [hkeys] at hf ⊢
        exact resume_canFail hwell (replay_sound hwell script replayed) typed hf
    | none =>
        simp only [hkeys] at hf ⊢
        by_cases hterminal : s.interactive = true
        · rw [if_pos hterminal] at hf ⊢
          exact readOn_canFail hwell .start typed hf
        · rw [if_neg hterminal] at hf ⊢
          cases hf
          exact .noKeys hkeys (Bool.eq_false_iff.2 hterminal)
  cases hresult : (s.run keys typed script).result with
  | ok _ => exact .inl rfl
  | error failure => exact .inr ⟨failure, rfl, hrun failure hresult⟩

/-- A menu that leads back to itself, and a shell in the environment that cannot be read. -/
theorem run_canFail_shell :
    ∃ (s : Session) (error : ParseError),
      Config.ofText "menu root \x7b g: root x: \"y\" \x7d".toList = .ok s.config ∧
      (s.run (some "gx".toList) [] ⟨[], []⟩).result = .error (.malformedShell error) ∧
      s.CanFail (some "gx".toList) (s.run (some "gx".toList) [] ⟨[], []⟩).events
        (.malformedShell error) := by
  obtain ⟨s, error, hs, hresult⟩ : ∃ (s : Session) (error : ParseError),
      Config.ofText "menu root \x7b g: root x: \"y\" \x7d".toList = .ok s.config ∧
      (s.run (some "gx".toList) [] ⟨[], []⟩).result = .error (.malformedShell error) :=
    ⟨⟨⟨⟨none, true⟩, [], [⟨"root".toList, none, [("g".toList, .submenu "root".toList),
        ("x".toList, .command ⟨[.literal "y".toList], none, false, none⟩)]⟩]⟩,
      ⟨[(Environment.shellName, "\"".toList)], none⟩, .stay, [], true⟩,
      .grammar ⟨⟨1, 2⟩, ["closing '\"'".toList], "\"".toList, some Environment.shellName⟩,
      by cbv, by cbv⟩
  rcases run_canFail hs (some "gx".toList) [] ⟨[], []⟩ with hok | ⟨failure, hfailure, hcan⟩
  · cases hresult.symm.trans hok
  · cases hresult.symm.trans hfailure
    exact ⟨s, error, hs, hresult, hcan⟩

end Session

end KeyMenu
