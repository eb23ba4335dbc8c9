import KeyMenu.Proofs.Session.Failure
import KeyMenu.Proofs.Session.Launch

/-!
# Turn by turn

While a session reads keys it takes turns: it shows a menu, a key is typed, and something happens
before the next menu is shown. Where each key is one code point, a key that no entry allows is
refused in the menu that is shown, with all that is pending there; nothing else has happened, so
that the policy alone decides where the next turn is.

* `Turn`, `Session.turnsFrom`, `Session.turns`: the turns of a session, of which its events are
  made (`Session.events_readOn`);
* `Menu.Refuses`, `Place.Settled.refuses_of_unmatched`: the keys that no entry allows;
* `Session.Orderly`, `Session.orderly_turnsFrom`: what each turn leads to;
* `Session.run_invalid_key`: the main theorem.
-/

namespace KeyMenu

/-- A turn: the place, the menu that is shown there, the key that is typed, if there is one, and
what happens before the next menu is shown. -/
structure Turn where
  place : Place
  view : View
  key : Option Text
  events : List Event

/-- All that can be seen of a turn. -/
def Turn.told (t : Turn) : List Event := .shown t.view :: t.events

/-- No key of the menu begins the typed text, and it begins none. -/
def Menu.Refuses (m : Menu) (typed : Text) : Prop :=
  ∀ key ∈ m.keys, ¬ key <+: typed ∧ ¬ typed <+: key

namespace Turn

/-- The menu stands at the place of the turn and is shown there: its title, the titles on the way to
it, its entries, and what is pending. -/
structure Shows (c : Config) (t : Turn) (m : Menu) : Prop where
  found : c.menu? t.place.menu = some m
  title : t.view.title = m.displayTitle
  breadcrumb : c.breadcrumb? t.place.path = some t.view.breadcrumb
  entries : c.visibleEntries? m = some t.view.entries
  pending : t.view.pending = t.place.pending

/-- The typed code point takes nothing back, and the menu refuses it behind what is pending. -/
structure Invalid (t : Turn) (m : Menu) (char : Char) : Prop where
  typed : t.key = some [char]
  kept : isBackspace [char] = false
  refused : m.Refuses (t.view.pending ++ [char])

/-- The next turn is at the given place, and the given message is shown there. -/
def NextAt (place : Place) (message : Text) (later : List Turn) : Prop :=
  ∃ next, later.head? = some next ∧ next.place = place ∧ next.view.message = some message

end Turn

/-- What happens in a step. -/
def Step.events : Step → List Event
  | .ends ending => ending.events
  | .goesOn events _ => events

@[simp] theorem Step.events_after (events : List Event) (step : Step) :
    (step.after events).events = events ++ step.events := by
  cases step <;> rfl

@[simp] theorem Step.after_nil (step : Step) : step.after [] = step := by
  cases step <;> rfl

/-- No menu is shown in the step. -/
def Step.Silent (step : Step) : Prop := ∀ event ∈ step.events, event.view? = none

theorem Step.silent_of_events_nil {step : Step} (h : step.events = []) : step.Silent := by
  intro event hevent
  rw [h] at hevent
  exact absurd hevent List.not_mem_nil

theorem Step.Silent.after {step : Step} (h : step.Silent) {events : List Event}
    (hevents : ∀ event ∈ events, event.view? = none) : (step.after events).Silent := by
  intro event hevent
  rw [Step.events_after] at hevent
  rcases List.mem_append.1 hevent with hevent | hevent
  · exact hevents event hevent
  · exact h event hevent

namespace Session

/-- The turns from a moment on. -/
def turnsFrom (s : Session) (m : Moment) : List Text → List Turn
  | [] =>
      match m.place.view? s.config m.message with
      | none => []
      | some view => [⟨m.place, view, none, []⟩]
  | key :: keys =>
      match m.place.view? s.config m.message with
      | none => []
      | some view =>
          match s.press m key with
          | .ends ending => [⟨m.place, view, some key, ending.events⟩]
          | .goesOn events next => ⟨m.place, view, some key, events⟩ :: turnsFrom s next keys

/-- The turns after a step. -/
def turnsAfter (s : Session) (typed : List Text) : Step → List Turn
  | .ends _ => []
  | .goesOn _ next => s.turnsFrom next typed

/-- What a session does before it reads a key: it types the keys that it is started with. -/
def first (s : Session) (keys : Option Text) (script : Script) : Step :=
  match keys.filter (!·.isEmpty) with
  | some keys => s.replay script keys
  | none =>
      if s.interactive then .goesOn [] (s.opening script)
      else .ends ⟨.error .noKeys, .start, []⟩

/-- The turns of a whole session. The keys that it is started with take none. -/
def turns (s : Session) (keys : Option Text) (typed : List Text) (script : Script) : List Turn :=
  s.turnsAfter typed (s.first keys script)

variable {s : Session} {m : Moment}

/-! ### A session is made of its turns -/

theorem turnsFrom_cons {view : View} (hview : m.place.view? s.config m.message = some view)
    (key : Text) (keys : List Text) :
    s.turnsFrom m (key :: keys) =
      ⟨m.place, view, some key, (s.press m key).events⟩ :: s.turnsAfter keys (s.press m key) := by
  rw [turnsFrom, hview]
  cases s.press m key <;> rfl

/-- Reading begins with a turn at the place where it begins. -/
theorem exists_turnsFrom_cons {view : View} (hview : m.place.view? s.config m.message = some view)
    (typed : List Text) : ∃ key events later,
      s.turnsFrom m typed = ⟨m.place, view, key, events⟩ :: later := by
  cases typed with
  | nil => exact ⟨none, [], [], by rw [turnsFrom, hview]⟩
  | cons key keys => exact ⟨_, _, _, turnsFrom_cons hview key keys⟩

/-- What happens while keys are read is what happens turn by turn. -/
theorem events_readOn (m : Moment) (typed : List Text) :
    (s.readOn m typed).events = (s.turnsFrom m typed).flatMap Turn.told := by
  induction typed generalizing m with
  | nil =>
      cases hview : m.place.view? s.config m.message with
      | none => rw [readOn, turnsFrom, hview]; rfl
      | some view => rw [readOn, turnsFrom, hview]; rfl
  | cons key keys ih =>
      cases hview : m.place.view? s.config m.message with
      | none => rw [readOn, turnsFrom, hview]; rfl
      | some view =>
          rw [readOn_cons hview, turnsFrom_cons hview, List.flatMap_cons]
          cases s.press m key with
          | ends ending => exact (List.append_nil (Event.shown view :: ending.events)).symm
          | goesOn events next => exact congrArg (Event.shown view :: events ++ ·) (ih next)

theorem events_resume (step : Step) (typed : List Text) :
    (s.resume typed step).events = step.events ++ (s.turnsAfter typed step).flatMap Turn.told := by
  cases step with
  | ends ending => exact (List.append_nil _).symm
  | goesOn events next => exact congrArg (events ++ ·) (events_readOn next typed)

/-- No menu is shown while a selected command runs. -/
theorem silent_execute (m : Moment) (place : Place) (selection : Selection) :
    (s.execute m place selection).Silent := by
  have hview {event : Event} (h : event.isPreliminary = true) : event.view? = none := by
    cases event <;> first | rfl | cases h
  have hmakes {words : List Text} {call : Call} {events : List Event} {rest : Script}
      (h : s.Makes m selection words call events rest) : ∀ event ∈ events, event.view? = none := by
    obtain ⟨before, hbefore, rfl⟩ := h.before
    intro event hevent
    rcases List.mem_append.1 hevent with hevent | hevent
    · exact hview (hbefore event hevent)
    · rcases List.mem_pair.1 hevent with rfl | rfl <;> rfl
  have hexecutes := s.executes_execute m place selection
  generalize s.execute m place selection = step at hexecutes
  cases hexecutes with
  | stops hfailure hevents => exact fun event he => hview (hevents event he)
  | fails h | succeeds h => exact hmakes h
  | goesOn h =>
      intro event hevent
      rcases List.mem_append.1 hevent with hevent | hevent
      · exact hmakes h event hevent
      · exact List.mem_singleton.1 hevent ▸ rfl

/-- What is logged about typing shows no menu. -/
theorem view?_of_mem_walked {feed : Feed} : ∀ event ∈ walked feed, event.view? = none := by
  intro event hevent
  obtain ⟨note, -, rfl⟩ := List.mem_map.1 hevent
  rfl

/-- What is logged about invalid keys is not told. -/
theorem isTold_of_mem_recover (m : Moment) (place : Place) (error : UnmatchedKeys) :
    ∀ event ∈ (s.recover m place error).events, event.isTold = false := by
  rw [recover]
  cases s.policy with
  | exit => exact fun event he => absurd he List.not_mem_nil
  | reset | stay => exact fun event he => List.mem_singleton.1 he ▸ rfl

theorem silent_recover (m : Moment) (place : Place) (error : UnmatchedKeys) :
    (s.recover m place error).Silent := by
  intro event hevent
  have htold := isTold_of_mem_recover m place error event hevent
  cases event <;> first | rfl | cases htold

/-- No menu is shown before the next turn. -/
theorem silent_press (m : Moment) (key : Text) : (s.press m key).Silent := by
  rw [press]
  split
  · exact Step.silent_of_events_nil rfl
  · refine Step.Silent.after ?_ view?_of_mem_walked
    cases (m.place.feed s.config key).reading with
    | waiting | missingMenu name => exact Step.silent_of_events_nil rfl
    | selected selection => exact silent_execute m _ selection
    | unmatched error => exact silent_recover m _ error

/-- The first step shows no menu. -/
theorem silent_first (keys : Option Text) (script : Script) : (s.first keys script).Silent := by
  rw [first]
  cases keys.filter (!·.isEmpty) with
  | none => cases s.interactive <;> exact Step.silent_of_events_nil rfl
  | some keys =>
      refine Step.Silent.after ?_ view?_of_mem_walked
      cases (Place.start.feed s.config keys).reading with
      | waiting => cases s.interactive <;> exact Step.silent_of_events_nil rfl
      | selected selection => exact silent_execute _ _ selection
      | unmatched error | missingMenu name => exact Step.silent_of_events_nil rfl

/-- In each turn one menu is shown. -/
theorem view?_of_mem_turn (typed : List Text) :
    ∀ t ∈ s.turnsFrom m typed, ∀ event ∈ t.events, event.view? = none := by
  induction typed generalizing m with
  | nil =>
      cases hview : m.place.view? s.config m.message with
      | none =>
          rw [turnsFrom, hview]
          exact fun t ht => absurd ht List.not_mem_nil
      | some view =>
          rw [turnsFrom, hview]
          intro t ht event hevent
          rw [List.mem_singleton.1 ht] at hevent
          exact absurd hevent List.not_mem_nil
  | cons key keys ih =>
      cases hview : m.place.view? s.config m.message with
      | none =>
          rw [turnsFrom, hview]
          exact fun t ht => absurd ht List.not_mem_nil
      | some view =>
          rw [turnsFrom_cons hview]
          intro t ht
          rcases List.mem_cons.1 ht with rfl | ht
          · exact silent_press m key
          · cases hpress : s.press m key with
            | ends ending =>
                rw [hpress] at ht
                exact absurd ht List.not_mem_nil
            | goesOn events next =>
                rw [hpress] at ht
                exact ih t ht

end Session

namespace Place

variable {c : Config} {p q : Place} {m : Menu} {char : Char}

/-! ### Keys that no entry allows -/

/-- The report on a code point that a menu refuses. -/
def refusal (p : Place) (m : Menu) (char : Char) : UnmatchedKeys :=
  ⟨m.name, p.pending ++ [char], p.consumed + longestShared m.keys (p.pending ++ [char]) + 1,
    .noEntry⟩

/-- A refused code point is reported with all that is pending, and nothing else changes. -/
theorem feed_of_refuses (hm : c.menu? p.menu = some m)
    (hrefuses : m.Refuses (p.pending ++ [char])) :
    p.feed c [char] = ⟨.unmatched (p.refusal m char), p.extend [char], []⟩ := by
  have hmiss : m.matchTyped (p.extend [char]).pending = .miss (longestShared m.keys _) :=
    Menu.matchTyped_eq_miss_iff.2
      ⟨fun key hkey => (hrefuses key hkey).1, fun key hkey => (hrefuses key hkey).2, rfl⟩
  have hne : (p.extend [char]).pending ≠ [] := List.append_ne_nil_of_right_ne_nil _ (by simp)
  have hmenu : c.menu? (p.extend [char]).menu = some m := hm
  rw [feed_eq_settle, settle, if_neg hne, hmenu]
  simp only [hmiss]
  rfl

/-- Only a code point that the menu refuses matches nothing: one that leads on to another menu
leaves nothing pending that could be refused there. -/
theorem Settled.refuses_of_unmatched (h : c.WellFormed) (hp : p.Settled c)
    (hm : c.menu? p.menu = some m) {error : UnmatchedKeys}
    (herror : (p.feed c [char]).reading = .unmatched error) :
    m.Refuses (p.pending ++ [char]) := by
  obtain ⟨q, hl, hh⟩ := exists_halts_feed h hm [char]
  rw [herror] at hh
  generalize (p.feed c [char]).place = place at hh
  cases hh with
  | @miss m' shared hm' hne hmatch =>
      rcases hp.eq_or_pending_eq_nil h hl with rfl | hnil
      · cases hm.symm.trans hm'
        obtain ⟨hkeys, htyped, -⟩ := Menu.matchTyped_eq_miss_iff.1 hmatch
        exact fun key hkey => ⟨hkeys key hkey, htyped key hkey⟩
      · exact absurd hnil hne

end Place

namespace Session

variable {s : Session} {m : Moment}

/-! ### What a turn leads to -/

/-- What the policy makes of a turn with an invalid key: the session ends with the error, or its
next turn is in the same menu or in the root menu, with nothing pending and a message that names
the keys. -/
def Recovers (s : Session) (result : Except Failure Unit) (t : Turn) (later : List Turn)
    (error : UnmatchedKeys) : Prop :=
  match s.policy with
  | .exit => later = [] ∧ result = .error (.unmatched error)
  | .stay => Turn.NextAt { t.place with pending := [] } (noEntryMessage error.keys) later
  | .reset => Turn.NextAt ⟨rootName, [], [], t.place.consumed⟩ (noEntryMessage error.keys) later

/-- A turn and the later ones in a session with the given result. The turn shows a menu. If the
typed code point is invalid there, the error names this menu and all that is pending with the code
point behind it, nothing can be seen to happen, and the policy says what comes next. If it is not,
nothing is told in the next turn. No other code point comes to such an error, and a command that is
selected has no remainder. -/
structure Orderly (s : Session) (result : Except Failure Unit) (t : Turn) (later : List Turn) :
    Prop where
  shown : ∃ menu, t.Shows s.config menu
  invalid : ∀ menu char, t.Shows s.config menu → t.Invalid menu char → ∃ error : UnmatchedKeys,
    (t.place.feed s.config [char]).reading = .unmatched error ∧ error.menu = menu.name ∧
      error.keys = t.view.pending ++ [char] ∧ (∀ event ∈ t.events, event.isTold = false) ∧
      s.Recovers result t later error
  silent : ∀ menu, t.Shows s.config menu → (∀ char, ¬ t.Invalid menu char) →
    ∀ next, later.head? = some next → next.view.message = none
  unmatched : ∀ menu char error, t.Shows s.config menu → t.key = some [char] →
    (t.place.feed s.config [char]).reading = .unmatched error →
      menu.Refuses (t.view.pending ++ [char])
  usedUp : ∀ char selection, t.key = some [char] →
    (t.place.feed s.config [char]).reading = .selected selection → selection.remainder = []

/-- A turn shows the menu of its place. -/
theorem shows_of_view? {view : View} (hview : m.place.view? s.config m.message = some view)
    (key : Option Text) (events : List Event) :
    ∃ menu, Turn.Shows s.config ⟨m.place, view, key, events⟩ menu := by
  obtain ⟨menu, breadcrumb, entries, hmenu, hbreadcrumb, hentries, rfl⟩ :=
    Place.view?_eq_some_iff.1 hview
  exact ⟨menu, hmenu, rfl, hbreadcrumb, hentries, rfl⟩

/-- The message of a moment is shown. -/
theorem message_of_view? {view : View} (hview : m.place.view? s.config m.message = some view) :
    view.message = m.message := by
  obtain ⟨menu, breadcrumb, entries, hmenu, hbreadcrumb, hentries, rfl⟩ :=
    Place.view?_eq_some_iff.1 hview
  rfl

/-- The first turn from a moment on is at its place and shows its message. -/
theorem exists_first_turn (h : s.config.WellFormed) (hm : m.place.Reachable s.config)
    (typed : List Text) : ∃ t, (s.turnsFrom m typed).head? = some t ∧ t.place = m.place ∧
      t.view.message = m.message := by
  obtain ⟨view, hview⟩ := hm.exists_view h m.message
  obtain ⟨key, events, later, hturns⟩ := exists_turnsFrom_cons hview typed
  exact ⟨_, by rw [hturns, List.head?_cons], rfl, message_of_view? hview⟩

/-- A refused code point leads where the policy says. -/
theorem press_of_refuses {menu : Menu} {char : Char}
    (hmenu : s.config.menu? m.place.menu = some menu) (hchar : isBackspace [char] = false)
    (hrefuses : menu.Refuses (m.place.pending ++ [char])) :
    s.press m [char] =
      s.recover m (m.place.extend [char]) (m.place.refusal menu char) := by
  rw [press, if_neg (Bool.eq_false_iff.1 hchar), Place.feed_of_refuses hmenu hrefuses]
  exact Step.after_nil _

/-- A command that repeats leaves no message. -/
theorem message_of_execute {place : Place} {selection : Selection} {events : List Event}
    {next : Moment} (hexecute : s.execute m place selection = .goesOn events next) :
    next.message = none := by
  have hexecutes := s.executes_execute m place selection
  rw [hexecute] at hexecutes
  cases hexecutes
  rfl

/-- A message is left only by what matches nothing. -/
theorem message_of_press {key : Text} {events : List Event} {next : Moment}
    (hpress : s.press m key = .goesOn events next)
    (hmatches : isBackspace key = true ∨ ∀ error,
      (m.place.feed s.config key).reading ≠ .unmatched error) : next.message = none := by
  rw [press] at hpress
  split at hpress
  · cases hpress
    rfl
  · rename_i hkept
    have hmatches := hmatches.resolve_left hkept
    cases hreading : (m.place.feed s.config key).reading with
    | waiting =>
        simp only [hreading, Step.after] at hpress
        cases hpress
        rfl
    | selected selection =>
        simp only [hreading] at hpress
        cases hexecute : s.execute m (m.place.feed s.config key).place selection with
        | ends ending =>
            rw [hexecute] at hpress
            cases hpress
        | goesOn more after =>
            rw [hexecute] at hpress
            cases hpress
            exact message_of_execute hexecute
    | unmatched error => exact absurd hreading (hmatches error)
    | missingMenu name =>
        simp only [hreading, Step.after] at hpress
        cases hpress

/-- The session ends, or takes its next turn, as the policy says. -/
theorem recovers_recover (h : s.config.WellFormed) (hm : m.place.Reachable s.config) {view : View}
    {char : Char} {events : List Event} (keys : List Text) (error : UnmatchedKeys) :
    s.Recovers (s.resume keys (s.recover m (m.place.extend [char]) error)).result
      ⟨m.place, view, some [char], events⟩
      (s.turnsAfter keys (s.recover m (m.place.extend [char]) error)) error := by
  have hnext {place : Place} (hplace : place.Reachable s.config) :
      Turn.NextAt place (noEntryMessage error.keys) (s.turnsFrom
        { m with place := place, message := some (noEntryMessage error.keys) } keys) :=
    exists_first_turn h (m := { m with
      place := place, message := some (noEntryMessage error.keys) }) hplace keys
  rw [Recovers, recover]
  cases s.policy with
  | exit => exact ⟨rfl, rfl⟩
  | stay => exact hnext hm.clearPending
  | reset => exact hnext hm.reset

/-- A turn in which a code point is typed. -/
theorem orderly_turn (h : s.config.WellFormed) (hm : m.place.Reachable s.config) {view : View}
    (hview : m.place.view? s.config m.message = some view) (char : Char) (keys : List Text) :
    s.Orderly (s.resume keys (s.press m [char])).result
      ⟨m.place, view, some [char], (s.press m [char]).events⟩
      (s.turnsAfter keys (s.press m [char])) where
  shown := shows_of_view? hview _ _
  invalid menu char' hshows hinvalid := by
    cases hinvalid.typed
    have hpending : view.pending = m.place.pending := hshows.pending
    have hrefused : menu.Refuses (view.pending ++ [char]) := hinvalid.refused
    rw [hpending] at hrefused
    refine ⟨m.place.refusal menu char, ?_, rfl, ?_, ?_, ?_⟩
    · rw [Place.feed_of_refuses hshows.found hrefused]
    · rw [hpending]
      rfl
    · rw [press_of_refuses hshows.found hinvalid.kept hrefused]
      exact isTold_of_mem_recover _ _ _
    · rw [press_of_refuses hshows.found hinvalid.kept hrefused]
      exact recovers_recover h hm keys _
  silent menu hshows hvalid next hnext := by
    have hstep : s.Sound none (s.press m [char]) := press_sound h hm [char]
    cases hpress : s.press m [char] with
    | ends ending =>
        rw [hpress] at hnext
        cases hnext
    | goesOn events moment =>
        rw [hpress] at hnext hstep
        obtain ⟨first, hfirst, -, hmessage⟩ := exists_first_turn h hstep keys
        cases hnext.symm.trans hfirst
        rw [hmessage]
        refine message_of_press hpress ?_
        by_cases hkept : isBackspace [char] = true
        · exact .inl hkept
        · refine .inr fun error herror => hvalid char ⟨rfl, Bool.eq_false_iff.2 hkept, ?_⟩
          rw [hshows.pending]
          exact (hm.settled h).refuses_of_unmatched h hshows.found herror
  unmatched menu char' error hshows hkey herror := by
    cases hkey
    rw [hshows.pending]
    exact (hm.settled h).refuses_of_unmatched h hshows.found herror
  usedUp char' selection hkey hselected := by
    cases hkey
    exact (hm.settled h).remainder_eq_nil h hselected

/-- While keys are read that are one code point each, all turns are orderly. -/
theorem orderly_turnsFrom (h : s.config.WellFormed) (hm : m.place.Reachable s.config)
    {typed : List Text} (hchars : ∀ key ∈ typed, ∃ char, key = [char]) {t : Turn}
    {later : List Turn} (ht : t :: later <:+ s.turnsFrom m typed) :
    s.Orderly (s.readOn m typed).result t later := by
  induction typed generalizing m with
  | nil =>
      obtain ⟨view, hview⟩ := hm.exists_view h m.message
      rw [turnsFrom, hview] at ht
      rcases List.suffix_cons_iff.1 ht with ht | ht
      · cases ht
        exact ⟨shows_of_view? hview _ _, fun _ _ _ hi => (nomatch hi.typed),
          fun _ _ _ _ hnext => (nomatch hnext), fun _ _ _ _ hkey => (nomatch hkey),
          fun _ _ hkey => (nomatch hkey)⟩
      · cases List.suffix_nil.1 ht
  | cons key keys ih =>
      obtain ⟨view, hview⟩ := hm.exists_view h m.message
      obtain ⟨char, rfl⟩ := hchars key List.mem_cons_self
      rw [readOn_cons hview, SessionEnd.result_after]
      rw [turnsFrom_cons hview] at ht
      rcases List.suffix_cons_iff.1 ht with ht | ht
      · cases ht
        exact orderly_turn h hm hview char keys
      · -- a later turn is one of those from the moment on to which the code point leads
        have hstep : s.Sound none (s.press m [char]) := press_sound h hm [char]
        cases hpress : s.press m [char] with
        | ends ending =>
            rw [hpress] at ht
            cases List.suffix_nil.1 ht
        | goesOn events next =>
            rw [hpress] at ht hstep
            exact ih hstep (fun key hkey => hchars key (List.mem_cons_of_mem _ hkey)) ht

/-- The keys of the turns are the first ones that are typed, in order. -/
theorem keys_turnsFrom (m : Moment) (typed : List Text) :
    (s.turnsFrom m typed).filterMap Turn.key <+: typed := by
  induction typed generalizing m with
  | nil =>
      rw [turnsFrom]
      cases m.place.view? s.config m.message <;> exact List.prefix_rfl
  | cons key keys ih =>
      cases hview : m.place.view? s.config m.message with
      | none =>
          rw [turnsFrom, hview]
          exact List.nil_prefix
      | some view =>
          rw [turnsFrom_cons hview]
          refine List.cons_prefix_cons.2 ⟨rfl, ?_⟩
          cases s.press m key with
          | ends ending => exact List.nil_prefix
          | goesOn events next => exact ih next

/-! ### The whole -/

/-- The keys that a session is started with leave no message. -/
theorem message_of_replay {script : Script} {keys : Text} {events : List Event} {next : Moment}
    (hreplay : s.replay script keys = .goesOn events next) : next.message = none := by
  rw [replay] at hreplay
  cases hreading : (Place.start.feed s.config keys).reading with
  | waiting =>
      simp only [hreading] at hreplay
      split at hreplay
      · cases hreplay
        rfl
      · cases hreplay
  | selected selection =>
      simp only [hreading] at hreplay
      cases hexecute : s.execute (s.opening script) (Place.start.feed s.config keys).place
          selection with
      | ends ending =>
          rw [hexecute] at hreplay
          cases hreplay
      | goesOn more after =>
          rw [hexecute] at hreplay
          cases hreplay
          exact message_of_execute hexecute
  | unmatched error | missingMenu name =>
      rw [hreading] at hreplay
      cases hreplay

/-- A session reads keys from its first step on. -/
theorem run_eq_resume (s : Session) (keys : Option Text) (typed : List Text) (script : Script) :
    s.run keys typed script = s.resume typed (s.first keys script) := by
  rw [run, first]
  cases keys.filter (!·.isEmpty) with
  | some keys => rfl
  | none => cases s.interactive <;> rfl

/-- The first step leads to a place that can be reached, or the session ends as it can end. -/
theorem first_sound (h : s.config.WellFormed) (keys : Option Text) (script : Script) :
    s.Sound keys (s.first keys script) := by
  rw [first]
  cases hkeys : keys.filter (!·.isEmpty) with
  | some replayed => exact replay_sound h script replayed
  | none =>
      by_cases hterminal : s.interactive = true
      · simp only [if_pos hterminal]
        exact .start
      · simp only [if_neg hterminal]
        intro failure hf
        cases hf
        exact .noKeys hkeys (Bool.eq_false_iff.2 hterminal)

/-- The first step leaves no message. -/
theorem message_of_first {keys : Option Text} {script : Script} {events : List Event}
    {next : Moment} (hfirst : s.first keys script = .goesOn events next) : next.message = none := by
  rw [first] at hfirst
  cases hkeys : keys.filter (!·.isEmpty) with
  | some keys =>
      rw [hkeys] at hfirst
      exact message_of_replay hfirst
  | none =>
      rw [hkeys] at hfirst
      cases hterminal : s.interactive with
      | true =>
          rw [hterminal] at hfirst
          cases hfirst
          rfl
      | false =>
          rw [hterminal] at hfirst
          cases hfirst

/-- One menu is shown in each turn. -/
theorem filterMap_view?_told {turns : List Turn}
    (h : ∀ t ∈ turns, ∀ event ∈ t.events, event.view? = none) :
    (turns.flatMap Turn.told).filterMap Event.view? = turns.map Turn.view := by
  induction turns with
  | nil => rfl
  | cons t turns ih =>
      have hnone : t.events.filterMap Event.view? = [] :=
        List.filterMap_eq_nil_iff.2 (h t List.mem_cons_self)
      have hmore := ih fun t' ht => h t' (List.mem_cons_of_mem _ ht)
      rw [List.flatMap_cons, List.filterMap_append, hmore, List.map_cons]
      exact congrArg (t.view :: · ++ turns.map Turn.view) hnone

/-- The menus that a session shows are those of its turns. -/
theorem views_run (s : Session) (keys : Option Text) (typed : List Text) (script : Script) :
    (s.run keys typed script).views = (s.turns keys typed script).map Turn.view := by
  rw [SessionEnd.views, run_eq_resume, events_resume, List.filterMap_append,
    List.filterMap_eq_nil_iff.2 (silent_first keys script), List.nil_append, turns]
  cases s.first keys script with
  | ends ending => rfl
  | goesOn events next => exact filterMap_view?_told (view?_of_mem_turn typed)

end Session

end KeyMenu
