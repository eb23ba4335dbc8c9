import KeyMenu.Proofs.Run.Launch
import KeyMenu.Proofs.Session.Replay

/-!
# The calls of a session

A session makes one call after the other. All but the last come from commands that repeat, and the
last one decides how the session ends, unless it ends while keys are read or before a call.

* `Event.sequels`: the calls, each with what can be seen behind it;
* `Launch`: a call and what it comes from; `Session.Account`: what is true of all calls together;
* `Session.account_execute`, `Session.account_readOn`: step by step;
* `Session.exists_account`: the main theorem.
-/

namespace KeyMenu

/-! ### Calls and what comes behind them -/

namespace Event

/-- What can be seen up to the next call. -/
def sequel (events : List Event) : List Event :=
  (events.takeWhile (·.call?.isNone)).filter Event.isTold

/-- The calls, each with what can be seen behind it up to the next call. -/
def sequels : List Event → List (Call × List Event)
  | [] => []
  | .called call :: rest => (call, sequel rest) :: sequels rest
  | _ :: rest => sequels rest

/-- These are all calls. -/
theorem map_fst_sequels (events : List Event) :
    (sequels events).map Prod.fst = events.filterMap Event.call? := by
  induction events with
  | nil => rfl
  | cons event rest ih =>
      cases event with
      | called call => exact congrArg (call :: ·) ih
      | _ => exact ih

/-- What is no call makes no difference in front of calls. -/
theorem sequels_append {events : List Event} (h : ∀ event ∈ events, event.call? = none)
    (rest : List Event) : sequels (events ++ rest) = sequels rest := by
  induction events with
  | nil => rfl
  | cons event events ih =>
      have hrest := ih fun e he => h e (List.mem_cons_of_mem _ he)
      cases event with
      | called call => cases h _ List.mem_cons_self
      | _ => exact hrest

end Event

/-- A call of a session: the selected command and the values it was run with, the call that was
made and the status that came back, and what can be seen behind it up to the next call. -/
structure Launch where
  selection : Selection
  values : List Text
  call : Call
  status : Int
  sequel : List Event

namespace Launch

/-- The process succeeded, or its result does not count. -/
def Succeeds (l : Launch) : Prop :=
  l.status = 0 ∨ l.selection.command.ignoresResult = true

/-- After the call the session goes on in the menu of the command. -/
def GoesOn (s : Session) (l : Launch) : Prop :=
  l.Succeeds ∧ l.selection.command.repeats = true ∧ s.interactive = true

/-- The call is that of a command which a menu of the configuration holds, on a path through the
menus, and it is what the command comes to with the values. -/
structure Proper (s : Session) (l : Launch) : Prop where
  route : s.config.Route l.selection.path l.selection.menu
  found : ∃ m, s.config.menu? l.selection.menu = some m ∧
    (l.selection.key, .command l.selection.command) ∈ m.entries
  made : ∃ script,
    .called l.call ∈ ((s.config.run s.around l.selection.command l.values).run script).events

/-- The menu that holds the command is shown, with the titles on the path to it, and nothing is
pending and nothing is told. -/
structure Returns (s : Session) (l : Launch) (view : View) : Prop where
  menu : ∃ m, s.config.menu? l.selection.menu = some m ∧ view.title = m.displayTitle ∧
    s.config.visibleEntries? m = some view.entries
  breadcrumb : s.config.breadcrumb? l.selection.path = some view.breadcrumb
  pending : view.pending = []
  message : view.message = none

end Launch

namespace Session

/-- An account of all calls of a session that has some values for its first command and is given
some statuses. -/
structure Account (s : Session) (given : List Text) (statuses : List Int) (launches : List Launch)
    (e : SessionEnd) : Prop where
  calls : Event.sequels e.events = launches.map fun l => (l.call, l.sequel)
  proper : ∀ l ∈ launches, l.Proper s
  status : ∀ i l, launches[i]? = some l → l.status = statuses.getD i 0
  first : ∀ l, launches.head? = some l →
    ∃ words, l.selection.remainder.arguments = .ok words ∧ l.values = words ++ given
  later : ∀ l ∈ launches.tail, l.selection.remainder.arguments = .ok l.values
  goesOn : ∀ l ∈ launches.dropLast, l.GoesOn s
  returns : ∀ l ∈ launches, l.GoesOn s →
    ∃ view, l.sequel.head? = some (.shown view) ∧ l.Returns s view
  nothing : ∀ l ∈ launches, ¬ l.GoesOn s → l.sequel = []
  succeeds : e.result = .ok () ↔ ∃ l, launches.getLast? = some l ∧ l.Succeeds ∧
    ¬ (l.selection.command.repeats = true ∧ s.interactive = true)
  fails : ∀ status, (∃ text, e.result = .error (.exited status text)) ↔
    ∃ l, launches.getLast? = some l ∧ l.status = status ∧ ¬ l.Succeeds

theorem exists_getLast?_singleton {α : Type} {P : α → Prop} {a : α} :
    (∃ b, [a].getLast? = some b ∧ P b) ↔ P a := by
  simp

/-- An element that is not looked for makes no difference in front of others. -/
theorem exists_getLast?_cons {α : Type} {P : α → Prop} {a : α} {l : List α} (h : ¬ P a) :
    (∃ b, (a :: l).getLast? = some b ∧ P b) ↔ ∃ b, l.getLast? = some b ∧ P b := by
  cases l with
  | nil => simp [h]
  | cons b l => rw [List.getLast?_cons_cons]

variable {s : Session} {given : List Text} {statuses : List Int} {launches : List Launch}
  {e : SessionEnd}

/-- What comes before the first call makes no difference. -/
theorem Account.after (h : s.Account given statuses launches e) {events : List Event}
    (hevents : ∀ event ∈ events, event.call? = none) :
    s.Account given statuses launches (e.after events) :=
  { h with calls := (Event.sequels_append hevents e.events).trans h.calls }

/-- A session that fails before any call. -/
theorem account_of_no_call {failure : Failure} (hresult : e.result = .error failure)
    (hfailure : ∀ status text, failure ≠ .exited status text)
    (hevents : ∀ event ∈ e.events, event.call? = none) : s.Account given statuses [] e where
  calls := by
    have hcalls := Event.sequels_append hevents []
    rw [List.append_nil] at hcalls
    exact hcalls
  proper _ hl := nomatch hl
  status _ _ hl := nomatch hl
  first _ hl := nomatch hl
  later _ hl := nomatch hl
  goesOn _ hl := nomatch hl
  returns _ hl := nomatch hl
  nothing _ hl := nomatch hl
  succeeds := by simp [hresult]
  fails status := by simp [hresult, hfailure]

/-- A session in which nothing happens. -/
theorem account_at_once {failure : Failure} {place : Place}
    (hfailure : ∀ status text, failure ≠ .exited status text) :
    s.Account given statuses [] ⟨.error failure, place, []⟩ :=
  account_of_no_call rfl hfailure fun _ he => absurd he List.not_mem_nil

section

variable {l : Launch} (hproper : l.Proper s) (hstatus : l.status = statuses.headD 0)
  (hvalues : ∃ words, l.selection.remainder.arguments = .ok words ∧ l.values = words ++ given)

include hproper hstatus hvalues

/-- A call behind which the session does not go on is the last one. -/
theorem account_singleton (hlast : ¬ l.GoesOn s) (hcalls : Event.sequels e.events = [(l.call, [])])
    (hsequel : l.sequel = []) (hsucceeds : e.result = .ok () ↔ l.Succeeds)
    (hfails : ∀ status, (∃ text, e.result = .error (.exited status text)) ↔
      l.status = status ∧ ¬ l.Succeeds) : s.Account given statuses [l] e where
  calls := by rw [hcalls, List.map_singleton, hsequel]
  proper := by simpa using hproper
  status i l' hl' := by
    cases i with
    | zero => rw [← Option.some.inj hl', hstatus, List.headD_eq_getD]
    | succ i => cases hl'
  first l' hl' := Option.some.inj hl' ▸ hvalues
  later _ hl' := nomatch hl'
  goesOn _ hl' := nomatch hl'
  returns l' hl' hgoes := absurd (List.mem_singleton.1 hl' ▸ hgoes) hlast
  nothing l' hl' _ := List.mem_singleton.1 hl' ▸ hsequel
  succeeds := by
    simp only [hsucceeds, exists_getLast?_singleton]
    exact ⟨fun hl => ⟨hl, fun hgoes => hlast ⟨hl, hgoes⟩⟩, And.left⟩
  fails status := by
    rw [hfails, exists_getLast?_singleton]

/-- A call behind which the session goes on, and the calls behind it. -/
theorem account_cons (hgoes : l.GoesOn s)
    (hreturns : ∃ view, l.sequel.head? = some (.shown view) ∧ l.Returns s view)
    (hrest : s.Account [] statuses.tail launches e) {whole : SessionEnd}
    (hcalls : Event.sequels whole.events = (l.call, l.sequel) :: Event.sequels e.events)
    (hresult : whole.result = e.result) : s.Account given statuses (l :: launches) whole where
  calls := by rw [hcalls, hrest.calls, List.map_cons]
  proper := by simpa using ⟨hproper, hrest.proper⟩
  status i l' hl' := by
    cases i with
    | zero => rw [← Option.some.inj hl', hstatus, List.headD_eq_getD]
    | succ i =>
        rw [hrest.status i l' hl']
        cases statuses <;> rfl
  first l' hl' := Option.some.inj hl' ▸ hvalues
  later l' hl' := by
    cases launches with
    | nil => cases hl'
    | cons first more =>
        rcases List.mem_cons.1 hl' with rfl | hl'
        · obtain ⟨words, hwords, hfirst⟩ := hrest.first l' rfl
          rw [hwords, hfirst, List.append_nil]
        · exact hrest.later l' hl'
  goesOn l' hl' := by
    cases launches with
    | nil => cases hl'
    | cons first more =>
        rcases List.mem_cons.1 hl' with rfl | hl'
        · exact hgoes
        · exact hrest.goesOn l' hl'
  returns l' hl' hgoes' := by
    rcases List.mem_cons.1 hl' with rfl | hl'
    · exact hreturns
    · exact hrest.returns l' hl' hgoes'
  nothing l' hl' hnot := by
    rcases List.mem_cons.1 hl' with rfl | hl'
    · exact absurd hgoes hnot
    · exact hrest.nothing l' hl' hnot
  succeeds := by
    rw [hresult, exists_getLast?_cons fun hl => hl.2 hgoes.2]
    exact hrest.succeeds
  fails status := by
    rw [hresult, exists_getLast?_cons fun hl => hl.2 hgoes.1]
    exact hrest.fails status

end

/-! ### What a selected command does -/

/-- The words behind the key of a selected command split, it is run with them and the values given,
and its call is made: what happens, and the answers that are left. -/
structure Makes (s : Session) (m : Moment) (selection : Selection) (words : List Text) (call : Call)
    (events : List Event) (rest : Script) : Prop where
  splits : selection.remainder.arguments = .ok words
  made : .called call ∈
    ((s.config.run s.around selection.command (words ++ m.given)).run m.script).events
  before : ∃ before, (∀ event ∈ before, event.isPreliminary = true) ∧
    events = before ++ [.called call, .logged (.exited m.script.nextStatus)]
  statuses : rest.statuses = m.script.statuses.tail

/-- The ways in which a selected command can go: something fails before its call, or the call is
made, and its status is a failure, or the session ends well, or it goes on in the menu of the
command. -/
inductive Executes (s : Session) (m : Moment) (place : Place) (selection : Selection) : Step → Prop
  | stops {failure : Failure} {events : List Event}
      (hfailure : ∀ status text, failure ≠ .exited status text)
      (hevents : ∀ event ∈ events, event.isPreliminary = true) :
      Executes s m place selection (.ends ⟨.error failure, place, events⟩)
  | fails {words : List Text} {call : Call} {events : List Event} {rest : Script} {text : Text}
      (hmakes : s.Makes m selection words call events rest)
      (hfails : ¬ (m.script.nextStatus = 0 ∨ selection.command.ignoresResult = true)) :
      Executes s m place selection
        (.ends ⟨.error (.exited m.script.nextStatus text), place, events⟩)
  | succeeds {words : List Text} {call : Call} {events : List Event} {rest : Script}
      (hmakes : s.Makes m selection words call events rest)
      (hsucceeds : m.script.nextStatus = 0 ∨ selection.command.ignoresResult = true)
      (hlast : ¬ (selection.command.repeats = true ∧ s.interactive = true)) :
      Executes s m place selection (.ends ⟨.ok (), place, events⟩)
  | goesOn {words : List Text} {call : Call} {events : List Event} {rest : Script}
      (hmakes : s.Makes m selection words call events rest)
      (hsucceeds : m.script.nextStatus = 0 ∨ selection.command.ignoresResult = true)
      (hgoes : selection.command.repeats = true ∧ s.interactive = true) :
      Executes s m place selection (.goesOn (events ++ [.logged (.repeating selection.menu)])
        ⟨place.enter selection.menu selection.path, none, [], rest⟩)

/-- Once the words behind the key split, the command is run with them. -/
theorem runSelected_of_words {selection : Selection} {words : List Text}
    (hwords : selection.remainder.arguments = .ok words) (given : List Text) :
    s.runSelected given selection =
      s.config.run s.around selection.command (words ++ given) := by
  rw [runSelected, values, hwords]
  rfl

theorem executes_execute (s : Session) (m : Moment) (place : Place) (selection : Selection) :
    s.Executes m place selection (s.execute m place selection) := by
  cases hwords : selection.remainder.arguments with
  | error error =>
      have hrun : (s.runSelected m.given selection).run m.script =
          ⟨.error (.unsplittable error), m.script, []⟩ := by
        rw [runSelected, values, hwords]
        rfl
      rw [execute, hrun]
      exact .stops (fun _ _ => Failure.noConfusion) fun _ he => nomatch he
  | ok words =>
      rw [execute, runSelected_of_words hwords]
      have hruns : s.config.Runs s.around selection.command (words ++ m.given) m.script _ :=
        Config.runs_run m.script
      generalize hending :
        (s.config.run s.around selection.command (words ++ m.given)).run m.script = ending at hruns
      cases hruns with
      | stops hfailure hevents => exact .stops hfailure hevents
      | @launches plan rest before hprepare hstatuses hevents =>
          have hmakes : s.Makes m selection words plan.call
              (before ++ [.called plan.call, .logged (.exited m.script.nextStatus)])
              rest.dropStatus := by
            refine ⟨hwords, ?_, ⟨before, hevents, rfl⟩, congrArg List.tail hstatuses⟩
            rw [hending]
            exact List.mem_append_right _ List.mem_cons_self
          by_cases hsucceeds : m.script.nextStatus = 0 ∨ selection.command.ignoresResult = true
          · rw [Command.verdict_eq_ok plan.text hsucceeds]
            by_cases hgoes : s.goesOnAfter selection = true
            · simp only [if_pos hgoes]
              exact .goesOn hmakes hsucceeds (Bool.and_eq_true_iff.1 hgoes)
            · simp only [if_neg hgoes]
              exact .succeeds hmakes hsucceeds fun hboth => hgoes (Bool.and_eq_true_iff.2 hboth)
          · rw [Command.verdict_eq_error plan.text hsucceeds]
            exact .fails hmakes hsucceeds

/-! ### Step by step -/

/-- Reading keys begins with what is shown. -/
theorem exists_readOn_eq_after {m : Moment} {view : View}
    (hview : m.place.view? s.config m.message = some view) (typed : List Text) :
    ∃ e : SessionEnd, s.readOn m typed = e.after [.shown view] := by
  cases typed with
  | nil => exact ⟨⟨.error .interrupted, m.place, []⟩, by rw [readOn, hview]; rfl⟩
  | cons key keys => exact ⟨_, readOn_cons hview key keys⟩

/-- What is logged about typing is no call. -/
theorem call?_of_mem_walked {feed : Feed} : ∀ event ∈ walked feed, event.call? = none := by
  intro event hevent
  obtain ⟨note, -, rfl⟩ := List.mem_map.1 hevent
  rfl

/-- What is shown where a command was selected, once nothing is pending and nothing is told. -/
theorem returns_of_view? {l : Launch} {p : Place} {view : View}
    (hview : (p.enter l.selection.menu l.selection.path).view? s.config none = some view) :
    l.Returns s view := by
  obtain ⟨m, breadcrumb, entries, hm, hbreadcrumb, hentries, rfl⟩ := Place.view?_eq_some_iff.1 hview
  exact ⟨⟨m, hm, rfl, hentries⟩, hbreadcrumb, rfl, rfl⟩

/-- The call of a selected command as a launch. -/
theorem Makes.proper (h : s.config.WellFormed) {p : Place} (hp : p.Reachable s.config) {text : Text}
    {m : Moment} {selection : Selection} (hs : (p.feed s.config text).reading = .selected selection)
    {words : List Text} {call : Call} {events : List Event} {rest : Script}
    (hmakes : s.Makes m selection words call events rest) (sequel : List Event) :
    Launch.Proper s ⟨selection, words ++ m.given, call, m.script.nextStatus, sequel⟩ := by
  obtain ⟨hroute, hfound⟩ := Place.route_of_selected h (hp.route h) hs
  exact ⟨hroute, hfound, m.script, hmakes.made⟩

/-- There is one call among what happens, and only its status is logged behind it. -/
theorem Makes.sequels {m : Moment} {selection : Selection} {words : List Text} {call : Call}
    {events : List Event} {rest : Script} (hmakes : s.Makes m selection words call events rest)
    (more : List Event) :
    Event.sequels (events ++ more) = (call, Event.sequel more) :: Event.sequels more := by
  obtain ⟨before, hbefore, rfl⟩ := hmakes.before
  rw [List.append_assoc, Event.sequels_append fun event he =>
    Event.call?_of_isPreliminary (hbefore event he)]
  rfl

/-- The run of a selected command: an account of its call, and of the calls behind it if it leads
back to its menu. -/
theorem account_execute (h : s.config.WellFormed) {p : Place} (hp : p.Reachable s.config)
    {text : Text} {selection : Selection}
    (hs : (p.feed s.config text).reading = .selected selection) (m : Moment) {typed : List Text}
    (ih : ∀ next : Moment, next.place.Reachable s.config →
      ∃ launches, s.Account next.given next.script.statuses launches (s.readOn next typed)) :
    ∃ launches, s.Account m.given m.script.statuses launches
      (s.resume typed (s.execute m (p.feed s.config text).place selection)) := by
  have hexecutes := s.executes_execute m (p.feed s.config text).place selection
  generalize s.execute m (p.feed s.config text).place selection = step at hexecutes
  cases hexecutes with
  | stops hfailure hevents =>
      exact ⟨[], account_of_no_call rfl hfailure fun event he =>
        Event.call?_of_isPreliminary (hevents event he)⟩
  | @fails words call events rest text hmakes hfails =>
      have hcalls := hmakes.sequels []
      rw [List.append_nil] at hcalls
      refine ⟨_, account_singleton (hmakes.proper h hp hs []) rfl ⟨words, hmakes.splits, rfl⟩
        (fun hl => hfails hl.1) hcalls rfl
        ⟨fun hok => (nomatch hok), fun hl => absurd hl hfails⟩ fun status => ⟨?_, ?_⟩⟩
      · rintro ⟨text, herror⟩
        cases herror
        exact ⟨rfl, hfails⟩
      · rintro ⟨rfl, -⟩
        exact ⟨text, rfl⟩
  | @succeeds words call events rest hmakes hsucceeds hlast =>
      have hcalls := hmakes.sequels []
      rw [List.append_nil] at hcalls
      exact ⟨_, account_singleton (hmakes.proper h hp hs []) rfl ⟨words, hmakes.splits, rfl⟩
        (fun hl => hlast hl.2) hcalls rfl ⟨fun _ => hsucceeds, fun _ => rfl⟩
        fun status => ⟨fun ⟨_, herror⟩ => (nomatch herror), fun hl => absurd hsucceeds hl.2⟩⟩
  | @goesOn words call events rest hmakes hsucceeds hgoes =>
      set next : Moment :=
        ⟨(p.feed s.config text).place.enter selection.menu selection.path, none, [], rest⟩
      have hnext : next.place.Reachable s.config := .enter (hp.feed text) hp hs
      obtain ⟨launches, hrest⟩ := ih next hnext
      obtain ⟨view, hview⟩ := hnext.exists_view h none
      obtain ⟨later, hlater⟩ := exists_readOn_eq_after (m := next) hview typed
      rw [hmakes.statuses] at hrest
      have hcalls := hmakes.sequels
        (.logged (.repeating selection.menu) :: (s.readOn next typed).events)
      have hshown : (Event.sequel (.logged (.repeating selection.menu) ::
          (s.readOn next typed).events)).head? = some (.shown view) := by
        rw [hlater]
        rfl
      refine ⟨_, account_cons (hmakes.proper h hp hs _) rfl ⟨words, hmakes.splits, rfl⟩
        ⟨hsucceeds, hgoes⟩ ⟨view, hshown, returns_of_view? hview⟩ hrest ?_ rfl⟩
      rw [resume, SessionEnd.events_after, List.append_assoc]
      exact hcalls

/-- Keys that no entry allows, and what is read after them. -/
theorem account_recover {m : Moment} {place : Place} (hplace : place.Reachable s.config)
    (error : UnmatchedKeys) {typed : List Text}
    (ih : ∀ next : Moment, next.place.Reachable s.config →
      ∃ launches, s.Account next.given next.script.statuses launches (s.readOn next typed)) :
    ∃ launches, s.Account m.given m.script.statuses launches
      (s.resume typed (s.recover m place error)) := by
  have htold : ∀ event ∈ [Event.logged (.invalidKeys error)], event.call? = none :=
    fun event he => List.mem_singleton.1 he ▸ rfl
  rw [recover]
  cases s.policy with
  | exit => exact ⟨[], account_at_once fun _ _ => Failure.noConfusion⟩
  | reset =>
      obtain ⟨launches, hrest⟩ := ih
        { m with place := place.reset, message := some (noEntryMessage error.keys) } hplace.reset
      exact ⟨launches, hrest.after htold⟩
  | stay =>
      obtain ⟨launches, hrest⟩ := ih
        { m with place := place.clearPending, message := some (noEntryMessage error.keys) }
        hplace.clearPending
      exact ⟨launches, hrest.after htold⟩

/-- A key, and what is read after it. -/
theorem account_press (h : s.config.WellFormed) {m : Moment} (hm : m.place.Reachable s.config)
    (key : Text) {typed : List Text}
    (ih : ∀ next : Moment, next.place.Reachable s.config →
      ∃ launches, s.Account next.given next.script.statuses launches (s.readOn next typed)) :
    ∃ launches, s.Account m.given m.script.statuses launches (s.resume typed (s.press m key)) := by
  rw [press]
  split
  · exact ih { m with place := m.place.backspace, message := none } hm.backspace
  · dsimp only
    rw [resume_after]
    cases hreading : (m.place.feed s.config key).reading with
    | waiting =>
        obtain ⟨launches, hrest⟩ :=
          ih { m with place := (m.place.feed s.config key).place, message := none } (hm.feed key)
        exact ⟨launches, hrest.after call?_of_mem_walked⟩
    | selected selection =>
        obtain ⟨launches, hrest⟩ := account_execute h hm hreading m ih
        exact ⟨launches, hrest.after call?_of_mem_walked⟩
    | unmatched error =>
        obtain ⟨launches, hrest⟩ := account_recover (hm.feed key) error ih
        exact ⟨launches, hrest.after call?_of_mem_walked⟩
    | missingMenu name =>
        obtain ⟨menu, hmenu⟩ := (hm.settled h).exists_menu
        exact absurd hreading (Place.feed_ne_missingMenu h hmenu key name)

/-- However many keys are read, there is an account of the calls. -/
theorem account_readOn (h : s.config.WellFormed) (typed : List Text) {m : Moment}
    (hm : m.place.Reachable s.config) :
    ∃ launches, s.Account m.given m.script.statuses launches (s.readOn m typed) := by
  obtain ⟨view, hview⟩ := hm.exists_view h m.message
  have hshown : ∀ event ∈ [Event.shown view], event.call? = none :=
    fun event he => List.mem_singleton.1 he ▸ rfl
  induction typed generalizing m view with
  | nil =>
      rw [readOn, hview]
      exact ⟨[], account_of_no_call rfl (fun _ _ => Failure.noConfusion) hshown⟩
  | cons key typed ih =>
      rw [readOn_cons hview]
      obtain ⟨launches, hrest⟩ := account_press h hm key fun next hnext => by
        obtain ⟨view', hview'⟩ := hnext.exists_view h next.message
        exact ih hnext view' hview' fun event he => List.mem_singleton.1 he ▸ rfl
      exact ⟨launches, hrest.after hshown⟩

/-! ### The whole -/

/-- The keys that a session is started with, and what is read after them. -/
theorem account_replay (h : s.config.WellFormed) (script : Script) (keys : Text)
    (typed : List Text) :
    ∃ launches, s.Account s.extra script.statuses launches
      (s.resume typed (s.replay script keys)) := by
  have hplace : (Place.start.feed s.config keys).place.Reachable s.config := .feed .start keys
  have hfails : ∀ failure, (∀ status text, failure ≠ .exited status text) →
      ∃ launches, s.Account s.extra script.statuses launches
        (SessionEnd.after (walked (Place.start.feed s.config keys))
          ⟨.error failure, (Place.start.feed s.config keys).place, []⟩) := by
    intro failure hfailure
    exact ⟨[], (account_at_once hfailure).after call?_of_mem_walked⟩
  rw [replay]
  dsimp only
  rw [resume_after]
  cases hreading : (Place.start.feed s.config keys).reading with
  | waiting =>
      simp only
      split
      · obtain ⟨launches, hrest⟩ := account_readOn h typed
          (m := { s.opening script with place := (Place.start.feed s.config keys).place }) hplace
        exact ⟨launches, hrest.after call?_of_mem_walked⟩
      · refine hfails _ fun status text => ?_
        rw [incomplete]
        split <;> exact Failure.noConfusion
  | selected selection =>
      obtain ⟨launches, hrest⟩ := account_execute h .start hreading (s.opening script)
        fun _ hnext => account_readOn h typed hnext
      exact ⟨launches, hrest.after call?_of_mem_walked⟩
  | unmatched error => exact hfails _ fun _ _ => Failure.noConfusion
  | missingMenu name => exact hfails _ fun _ _ => Failure.noConfusion

/-- Without a terminal no call leads on to another one. -/
theorem Account.length_le_one (h : s.Account given statuses launches e)
    (hterminal : s.interactive = false) : launches.length ≤ 1 := by
  match launches, h.goesOn with
  | [], _ => exact Nat.zero_le 1
  | [_], _ => exact Nat.le_refl 1
  | first :: _ :: _, hgoes =>
      exact absurd (hgoes first List.mem_cons_self).2.2 (Bool.eq_false_iff.1 hterminal)

/-- A command that is run without a terminal ends the session, and shows nothing. -/
theorem Executes.exists_ends {m : Moment} {place : Place} {selection : Selection} {step : Step}
    (h : s.Executes m place selection step) (hterminal : s.interactive = false) :
    ∃ ending, step = .ends ending ∧ ∀ view, .shown view ∉ ending.events := by
  have hmakes : ∀ {words call events rest}, s.Makes m selection words call events rest →
      ∀ view, .shown view ∉ events := by
    rintro words call events rest hmakes view hview
    obtain ⟨before, hbefore, rfl⟩ := hmakes.before
    rcases List.mem_append.1 hview with hview | hview
    · cases hbefore _ hview
    · simp at hview
  cases h with
  | stops hfailure hevents => exact ⟨_, rfl, fun view hview => nomatch hevents _ hview⟩
  | fails h hfails => exact ⟨_, rfl, hmakes h⟩
  | succeeds h hsucceeds hlast => exact ⟨_, rfl, hmakes h⟩
  | goesOn h hsucceeds hgoes => exact absurd hgoes.2 (Bool.eq_false_iff.1 hterminal)

/-- Without a terminal nothing is shown. -/
theorem shown_notMem_events (hterminal : s.interactive = false) (keys : Option Text)
    (typed : List Text) (script : Script) (view : View) :
    .shown view ∉ (s.run keys typed script).events := by
  have hwalked : ∀ feed, .shown view ∉ walked feed := by
    intro feed hview
    obtain ⟨note, -, hnote⟩ := List.mem_map.1 hview
    cases hnote
  have hends : ∀ {feed : Feed} {ending : SessionEnd}, .shown view ∉ ending.events →
      .shown view ∉ (ending.after (walked feed)).events := fun hending hview =>
    (List.mem_append.1 hview).elim (hwalked _) hending
  rw [run]
  cases keys.filter (!·.isEmpty) with
  | none => simp [hterminal]
  | some keys =>
      simp only
      rw [replay]
      dsimp only
      rw [resume_after]
      cases hreading : (Place.start.feed s.config keys).reading with
      | waiting =>
          refine hends ?_
          simp [hterminal, resume]
      | selected selection =>
          obtain ⟨ending, hending, hview⟩ := (s.executes_execute (s.opening script)
            (Place.start.feed s.config keys).place selection).exists_ends hterminal
          refine hends ?_
          simp only [hending]
          exact hview view
      | unmatched error => exact hends List.not_mem_nil
      | missingMenu name => exact hends List.not_mem_nil

end Session

end KeyMenu
