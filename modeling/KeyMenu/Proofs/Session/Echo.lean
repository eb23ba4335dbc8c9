import KeyMenu.Proofs.Run.Values
import KeyMenu.Proofs.Session.Turn

/-!
# Commands that are started, and one that is not

Every command that a session selects is started, except for the last one if it fails before its
call: that one is neither echoed nor called. A command that is started is called exactly once, with
the words of its shell and the expanded text, and if it is to be echoed, it is right before its
call. Nothing else is echoed or called.

* `Event.isIdle`: what can happen between commands;
* `Started`, `Stopped`: a command that is started, and one that stops before its call;
* `Session.Report`: a session, command by command;
* `Session.Kept`, `Session.Kept.run`: what every step of a session keeps up, a whole one does;
* `Session.exists_report`: the main theorem.
-/

namespace KeyMenu

/-! ### Between commands -/

/-- What can happen while no command runs: a menu is shown, or something is logged other than the
selection of a command. -/
def Event.isIdle : Event → Bool
  | .shown _ => true
  | .logged record => (Event.logged record).selected?.isNone
  | _ => false

/-- The text that is echoed. -/
def Event.echo? : Event → Option Text
  | .echoed text => some text
  | _ => none

/-- The selection of a command, an echo or a call. -/
def Event.isMark (event : Event) : Bool := !event.isIdle && !event.isTalk

namespace Place

variable {c : Config} {p q : Place}

/-- On the way through sub-menus nothing is noted but that they are entered. -/
theorem Leads.exists_entered (h : c.WellFormed) (hl : Leads c p q) :
    ∃ entered : List (Text × Text), (settle c p).notes =
      (entered.map fun e => .entering e.1 e.2) ++ (settle c q).notes := by
  induction hl with
  | refl p => exact ⟨[], rfl⟩
  | @step p q m key name hm he hk _ ih =>
      obtain ⟨entered, hentered⟩ := ih
      refine ⟨(key, name) :: entered, ?_⟩
      rw [settle_of_submenu h hm he hk]
      exact congrArg _ hentered

/-- Where typing halts, a selection is noted, or else candidates at most. -/
theorem Halts.notes {reading : Reading} {place : Place} (hh : Halts c p reading place) :
    (∃ selection, reading = .selected selection ∧
      (Place.settle c p).notes = [.command selection.key selection.menu]) ∨
    (∀ selection, reading ≠ .selected selection) ∧
      ∀ note ∈ (Place.settle c p).notes, ∃ typed candidates, note = .pending typed candidates := by
  cases hh with
  | command hm hne hmatch => exact .inl ⟨_, rfl, (Halts.command hm hne hmatch).notes_of_selected⟩
  | nothing hnil =>
      refine .inr ⟨fun _ => Reading.noConfusion, fun note hnote => ?_⟩
      rw [settle_of_pending_nil c hnil] at hnote
      exact absurd hnote List.not_mem_nil
  | pending hm hne hmatch =>
      refine .inr ⟨fun _ => Reading.noConfusion, fun note hnote => ?_⟩
      rw [Place.settle, if_neg hne, hm] at hnote
      simp only [hmatch, List.mem_singleton] at hnote
      exact ⟨_, _, hnote⟩
  | miss hm hne hmatch =>
      refine .inr ⟨fun _ => Reading.noConfusion, fun note hnote => ?_⟩
      rw [Place.settle, if_neg hne, hm] at hnote
      simp only [hmatch] at hnote
      exact absurd hnote List.not_mem_nil

end Place

/-- What the log tells of a selection. -/
def Selection.note (selection : Selection) : Event :=
  .logged (.walked (.command selection.key selection.menu))

namespace Session

variable {s : Session}

/-- All that the log tells of typing that selects nothing is idle. -/
theorem isIdle_of_mem_walked (h : s.config.WellFormed) {p : Place} {m : Menu}
    (hm : s.config.menu? p.menu = some m) (text : Text)
    (hnot : ∀ selection, (p.feed s.config text).reading ≠ .selected selection) :
    ∀ event ∈ walked (p.feed s.config text), event.isIdle = true := by
  obtain ⟨q, hl, hh⟩ := Place.exists_halts_feed h hm text
  obtain ⟨entered, hentered⟩ := hl.exists_entered h
  intro event hevent
  obtain ⟨note, hnote, rfl⟩ := List.mem_map.1 hevent
  rw [Place.feed_eq_settle, hentered] at hnote
  rcases List.mem_append.1 hnote with hnote | hnote
  · obtain ⟨e, -, rfl⟩ := List.mem_map.1 hnote
    rfl
  · rcases hh.notes with ⟨selection, hselected, -⟩ | ⟨-, hpending⟩
    · exact absurd hselected (hnot selection)
    · obtain ⟨typed, candidates, rfl⟩ := hpending note hnote
      rfl

/-- The log tells of a selection behind nothing but idle events. -/
theorem exists_walked_of_selected (h : s.config.WellFormed) {p : Place} {m : Menu}
    (hm : s.config.menu? p.menu = some m) {text : Text} {selection : Selection}
    (hs : (p.feed s.config text).reading = .selected selection) :
    ∃ entered, (∀ event ∈ entered, event.isIdle = true) ∧
      walked (p.feed s.config text) = entered ++ [selection.note] := by
  obtain ⟨q, hl, hh⟩ := Place.exists_halts_feed h hm text
  obtain ⟨entered, hentered⟩ := hl.exists_entered h
  rw [hs] at hh
  refine ⟨entered.map fun e => .logged (.walked (.entering e.1 e.2)), fun event hevent => ?_, ?_⟩
  · obtain ⟨e, -, rfl⟩ := List.mem_map.1 hevent
    rfl
  · rw [walked, Place.feed_eq_settle, hentered, hh.notes_of_selected, List.map_append, List.map_map]
    rfl

end Session

/-! ### Commands -/

/-- A command that a session starts: what it is selected by, what is said before its text is known,
the text, the shell, the call and its status, and what happens before another command is
selected. -/
structure Started where
  selection : Selection
  told : List Event
  text : Text
  shell : Shell
  call : Call
  status : Int
  behind : List Event

/-- A command that stops before its call: what it is selected by, and what is said until then. -/
structure Stopped where
  selection : Selection
  told : List Event

/-- A menu of the configuration holds the command under its key. -/
def Selection.Found (c : Config) (selection : Selection) : Prop :=
  ∃ m, c.menu? selection.menu = some m ∧ (selection.key, .command selection.command) ∈ m.entries

namespace Started

variable (s : Session) (l : Started)

/-- The mark of the command flips what the file says about echoing. -/
def Echoes : Prop := s.config.settings.echo ≠ l.selection.command.togglesEcho

instance : Decidable (l.Echoes s) := inferInstanceAs (Decidable (_ ≠ _))

/-- What happens from the selection of the command up to the record of its status. -/
def happening : List Event :=
  l.told ++ (if l.Echoes s then [.echoed l.text] else []) ++
    [.called l.call, .logged (.exited l.status)]

/-- All events from the selection of the command to that of another one. -/
def events : List Event := l.selection.note :: l.happening s ++ l.behind

/-- The selection of the command, its echo if there is to be one, and its call. -/
def marks : List Event :=
  l.selection.note :: (if l.Echoes s then [.echoed l.text] else []) ++ [.called l.call]

/-- The text is the expanded one, and the shell is the chosen one and gets it as its last word. -/
structure Proper : Prop where
  found : l.selection.Found s.config
  talk : ∀ event ∈ l.told, event.isTalk = true
  text : l.selection.command.expr.expand s.config.snippets = .ok l.text
  shell : Shell.choose l.selection.command.shell s.config.settings.shell s.around.environ =
    .ok l.shell
  argv : l.call.argv = l.shell.words ++ [l.text]
  idle : ∀ event ∈ l.behind, event.isIdle = true

end Started

namespace Stopped

/-- All events from the selection of the command on. -/
def events (t : Stopped) : List Event := t.selection.note :: t.told

/-- There is nothing but talk. -/
structure Proper (s : Session) (t : Stopped) : Prop where
  found : t.selection.Found s.config
  talk : ∀ event ∈ t.told, event.isTalk = true

end Stopped

namespace SessionEnd

/-- The end of the session if whoever leaves a prompt without an answer fails as given: leaving it
need not be the end of the input, it can be an interruption. -/
def leaving (failure : Failure) (e : SessionEnd) : SessionEnd :=
  match e.result with
  | .error .endOfInput => { e with result := .error failure }
  | _ => e

/-- The session ends with the failure of a command before its call. An interruption is one if it
comes at a prompt. -/
def StopsCommand (e : SessionEnd) : Prop :=
  ∃ failure, e.result = .error failure ∧
    (failure.precedesCall = true ∨
      failure = .interrupted ∧ ∃ prompt, e.events.getLast? = some (.prompted prompt))

end SessionEnd

/-- A session, command by command: what comes before the first one, the commands that are started,
and one that stops before its call if there is such a one. -/
structure Session.Report (s : Session) (e : SessionEnd) (opening : List Event)
    (started : List Started) (stopped : Option Stopped) : Prop where
  events : e.events =
    opening ++ started.flatMap (Started.events s) ++ stopped.toList.flatMap Stopped.events
  idle : ∀ event ∈ opening, event.isIdle = true
  proper : ∀ l ∈ started, l.Proper s
  stops : ∀ t ∈ stopped, t.Proper s
  ends : stopped.isSome = true ↔ e.StopsCommand
  prompt : e.result = .error .endOfInput →
    ∃ prompt, e.events.getLast? = some (.prompted prompt)

/-! ### Step by step -/

namespace Session

/-- What holds of every way a session can end: it holds where keys are missing, fit no entry or are
no longer typed, idle events in front make no difference to it, and running a selected command keeps
it up. -/
structure Kept (s : Session) (P : SessionEnd → Prop) : Prop where
  after : ∀ {before e}, (∀ event ∈ before, event.isIdle = true) → P e → P (e.after before)
  fails : ∀ failure place, failure.precedesCall = false → P ⟨.error failure, place, []⟩
  execute : ∀ {p : Place} {text : Text} {selection : Selection} (m : Moment) (typed : List Text),
    p.Reachable s.config → (p.feed s.config text).reading = .selected selection →
    (∀ next : Moment, next.place.Reachable s.config → P (s.readOn next typed)) →
      P ((s.resume typed (s.execute m (p.feed s.config text).place selection)).after
        (walked (p.feed s.config text)))

namespace Kept

variable {s : Session} {P : SessionEnd → Prop}

theorem recover (hP : s.Kept P) {m : Moment} {place : Place} (hplace : place.Reachable s.config)
    (error : UnmatchedKeys) {typed : List Text}
    (ih : ∀ next : Moment, next.place.Reachable s.config → P (s.readOn next typed)) :
    P (s.resume typed (s.recover m place error)) := by
  have hlogged : ∀ event ∈ [Event.logged (.invalidKeys error)], event.isIdle = true :=
    fun event he => List.mem_singleton.1 he ▸ rfl
  rw [Session.recover]
  cases s.policy with
  | exit => exact hP.fails _ _ rfl
  | reset => exact hP.after hlogged (ih _ hplace.reset)
  | stay => exact hP.after hlogged (ih _ hplace.clearPending)

theorem press (hP : s.Kept P) (h : s.config.WellFormed) {m : Moment}
    (hm : m.place.Reachable s.config) (key : Text) {typed : List Text}
    (ih : ∀ next : Moment, next.place.Reachable s.config → P (s.readOn next typed)) :
    P (s.resume typed (s.press m key)) := by
  obtain ⟨menu, hmenu⟩ := (hm.settled h).exists_menu
  rw [Session.press]
  split
  · exact hP.after (fun _ he => absurd he List.not_mem_nil) (ih _ hm.backspace)
  · dsimp only
    rw [resume_after]
    cases hreading : (m.place.feed s.config key).reading with
    | selected selection => exact hP.execute m typed hm hreading ih
    | waiting =>
        have hidle := isIdle_of_mem_walked h hmenu key fun _ => by
          rw [hreading]
          exact Reading.noConfusion
        exact hP.after hidle (ih { m with place := _, message := none } (hm.feed key))
    | unmatched error =>
        have hidle := isIdle_of_mem_walked h hmenu key fun _ => by
          rw [hreading]
          exact Reading.noConfusion
        exact hP.after hidle (hP.recover (hm.feed key) error ih)
    | missingMenu name => exact absurd hreading (Place.feed_ne_missingMenu h hmenu key name)

theorem readOn (hP : s.Kept P) (h : s.config.WellFormed) (typed : List Text) {m : Moment}
    (hm : m.place.Reachable s.config) : P (s.readOn m typed) := by
  have hshown : ∀ view, ∀ event ∈ [Event.shown view], event.isIdle = true :=
    fun view event he => List.mem_singleton.1 he ▸ rfl
  induction typed generalizing m with
  | nil =>
      obtain ⟨view, hview⟩ := hm.exists_view h m.message
      rw [Session.readOn, hview]
      exact hP.after (hshown view) (hP.fails .interrupted m.place rfl)
  | cons key typed ih =>
      obtain ⟨view, hview⟩ := hm.exists_view h m.message
      rw [readOn_cons hview]
      exact hP.after (hshown view) (hP.press h hm key fun next hnext => ih hnext)

theorem replay (hP : s.Kept P) (h : s.config.WellFormed) (script : Script) (keys : Text)
    (typed : List Text) : P (s.resume typed (s.replay script keys)) := by
  obtain ⟨root, hroot⟩ := h.soundGraph.root
  have hplace : (Place.start.feed s.config keys).place.Reachable s.config := .feed .start keys
  rw [Session.replay]
  dsimp only
  rw [resume_after]
  cases hreading : (Place.start.feed s.config keys).reading with
  | selected selection =>
      exact hP.execute (s.opening script) typed .start hreading fun _ hnext =>
        hP.readOn h typed hnext
  | waiting =>
      have hidle := isIdle_of_mem_walked h hroot keys (p := .start)
        (by rw [hreading]; exact fun _ => Reading.noConfusion)
      refine hP.after hidle ?_
      simp only
      split
      · exact hP.after (fun _ he => absurd he List.not_mem_nil) (hP.readOn h typed hplace)
      · refine hP.fails _ _ ?_
        rw [incomplete]
        split <;> rfl
  | unmatched error =>
      have hidle := isIdle_of_mem_walked h hroot keys (p := .start)
        (by rw [hreading]; exact fun _ => Reading.noConfusion)
      exact hP.after hidle (hP.fails _ _ rfl)
  | missingMenu name => exact absurd hreading (Place.feed_ne_missingMenu h hroot keys name)

/-- What every step of a session keeps up holds of the whole one. -/
theorem run (hP : s.Kept P) (h : s.config.WellFormed) (keys : Option Text) (typed : List Text)
    (script : Script) : P (s.run keys typed script) := by
  rw [Session.run]
  cases keys.filter (!·.isEmpty) with
  | some keys => exact hP.replay h script keys typed
  | none =>
      simp only
      split
      · exact hP.readOn h typed (m := s.opening script) .start
      · exact hP.fails _ _ rfl

end Kept

/-! ### A selected command -/

/-- The ways in which a selected command can go: it stops before its call, or it is started, and the
session ends or goes on in its menu. -/
inductive Carries (s : Session) (place : Place) (selection : Selection) : Step → Prop
  | stops {failure : Failure} {told : List Event} (hstops : Config.Stops failure told) :
      Carries s place selection (.ends ⟨.error failure, place, told⟩)
  | ends {l : Started} {result : Except Failure Unit} (hl : l.Proper s)
      (hselection : l.selection = selection) (hbehind : l.behind = [])
      (hresult : ∀ failure, result = .error failure → ∃ status text,
        failure = .exited status text) :
      Carries s place selection (.ends ⟨result, place, l.happening s⟩)
  | goesOn {l : Started} (hl : l.Proper s) (hselection : l.selection = selection)
      (hbehind : l.behind = []) (rest : Script) :
      Carries s place selection (.goesOn (l.happening s ++ [.logged (.repeating selection.menu)])
        ⟨place.enter selection.menu selection.path, none, [], rest⟩)

variable {s : Session}

theorem echoes_iff (s : Session) (command : Command) :
    s.config.echoes command = true ↔ s.config.settings.echo ≠ command.togglesEcho := by
  rw [Config.echoes, bne_iff_ne]

theorem carries_execute (m : Moment) (place : Place) {selection : Selection}
    (hfound : selection.Found s.config) :
    s.Carries place selection (s.execute m place selection) := by
  cases hwords : selection.remainder.arguments with
  | error error =>
      have hrun : (s.runSelected m.given selection).run m.script =
          ⟨.error (.unsplittable error), m.script, []⟩ := by
        rw [runSelected, values, hwords]
        rfl
      rw [execute, hrun]
      exact .stops ⟨rfl, fun _ he => absurd he List.not_mem_nil, Failure.noConfusion⟩
  | ok words =>
      rw [execute, runSelected_of_words hwords]
      have hperforms :=
        s.config.performs_run s.around selection.command (words ++ m.given) m.script
      generalize (s.config.run s.around selection.command (words ++ m.given)).run m.script = ending
        at hperforms
      cases hperforms with
      | stops hstops => exact .stops hstops
      | @launches found plan rest told hresolve hplan htold =>
          obtain ⟨text, shell, htext, hshell, rfl⟩ := Config.plan_eq_ok_iff.1 hplan
          set call : Call := ⟨shell.argv text, s.around.workdir, s.around.environ.overlay found⟩
          set status := m.script.nextStatus
          let l : Started := ⟨selection, told, text, shell, call, status, []⟩
          have hl : l.Proper s :=
            ⟨hfound, htold, htext, hshell, rfl, fun _ he => absurd he List.not_mem_nil⟩
          have hhappening : l.happening s = told ++
              (if s.config.echoes selection.command then [.echoed text] else []) ++
                [.called call, .logged (.exited status)] := by
            have hechoes : l.Echoes s ↔ s.config.echoes selection.command = true :=
              (echoes_iff s selection.command).symm
            rw [Started.happening, if_congr hechoes rfl rfl]
          rw [← hhappening]
          by_cases hsucceeds : status = 0 ∨ selection.command.ignoresResult = true
          · rw [Command.verdict_eq_ok text hsucceeds]
            simp only
            split
            · exact .goesOn hl rfl rfl _
            · exact .ends hl rfl rfl fun _ hf => by cases hf
          · rw [Command.verdict_eq_error text hsucceeds]
            refine .ends hl rfl rfl fun failure hf => ?_
            cases hf
            exact ⟨status, text, rfl⟩

/-! ### Reports -/

section

variable {e : SessionEnd} {opening before : List Event} {started : List Started}
  {stopped : Option Stopped}

/-- What ends in no prompt makes no difference in front. -/
theorem stopsCommand_after (h : ∀ prompt, before.getLast? ≠ some (.prompted prompt)) :
    (e.after before).StopsCommand ↔ e.StopsCommand := by
  have hlast (prompt : Text) : (before ++ e.events).getLast? = some (.prompted prompt) ↔
      e.events.getLast? = some (.prompted prompt) := by
    rw [List.getLast?_append]
    cases e.events.getLast? with
    | none => simpa using h prompt
    | some event => simp
  simp only [SessionEnd.StopsCommand, SessionEnd.result_after, SessionEnd.events_after, hlast]

/-- Idle events end in no prompt. -/
theorem getLast?_ne_of_isIdle (h : ∀ event ∈ before, event.isIdle = true) (prompt : Text) :
    before.getLast? ≠ some (.prompted prompt) := by
  intro hlast
  exact Bool.false_ne_true (h _ (List.mem_of_getLast? hlast))

theorem exists_prompt_after (before : List Event)
    (h : ∃ prompt, e.events.getLast? = some (.prompted prompt)) :
    ∃ prompt, (e.after before).events.getLast? = some (.prompted prompt) := by
  obtain ⟨prompt, hprompt⟩ := h
  exact ⟨prompt, by rw [SessionEnd.events_after, List.getLast?_append, hprompt, Option.some_or]⟩

/-- Idle events come before the first command. -/
theorem Report.after (h : s.Report e opening started stopped)
    (hbefore : ∀ event ∈ before, event.isIdle = true) :
    s.Report (e.after before) (before ++ opening) started stopped where
  events := by
    rw [SessionEnd.events_after, h.events]
    simp only [List.append_assoc]
  idle event he := (List.mem_append.1 he).elim (hbefore event) (h.idle event)
  proper := h.proper
  stops := h.stops
  ends := h.ends.trans (stopsCommand_after (getLast?_ne_of_isIdle hbefore)).symm
  prompt hresult := exists_prompt_after _ (h.prompt hresult)

/-- Where nothing more happens, no command stops before its call. -/
theorem report_of_end {result : Except Failure Unit} (place : Place)
    (hresult : ∀ failure, result = .error failure → failure.precedesCall = false) :
    s.Report ⟨result, place, []⟩ [] [] none where
  events := rfl
  idle _ he := nomatch he
  proper _ hl := nomatch hl
  stops _ ht := nomatch ht
  ends := by
    refine ⟨nofun, ?_⟩
    rintro ⟨failure, hfailure, hprecedes | ⟨-, prompt, hprompt⟩⟩
    · exact absurd hprecedes (Bool.eq_false_iff.1 (hresult failure hfailure))
    · cases hprompt
  prompt hfailure := absurd (hresult _ hfailure) (Bool.noConfusion)

/-- A command that stops before its call ends the session. -/
theorem report_of_stops {selection : Selection} (hfound : selection.Found s.config)
    {failure : Failure} {told : List Event} (hstops : Config.Stops failure told) (place : Place) :
    s.Report ⟨.error failure, place, selection.note :: told⟩ [] [] (some ⟨selection, told⟩) where
  events := by simp [Stopped.events]
  idle _ he := nomatch he
  proper _ hl := nomatch hl
  stops t ht := by
    cases ht
    exact ⟨hfound, hstops.talk⟩
  ends := ⟨fun _ => ⟨failure, rfl, .inl hstops.precedes⟩, fun _ => rfl⟩
  prompt hresult := by
    cases hresult
    exact exists_prompt_after (e := ⟨.ok (), place, told⟩) [selection.note] (hstops.prompt rfl)

theorem Started.events_of_behind_nil {l : Started} (h : l.behind = []) :
    l.events s = [l.selection.note] ++ l.happening s := by
  rw [Started.events, h, List.append_nil, List.singleton_append]

/-- The events of a command that is started end in no prompt. -/
theorem Started.getLast?_events_ne {l : Started} (hl : l.Proper s) (prompt : Text) :
    (l.events s).getLast? ≠ some (.prompted prompt) := by
  have hsplit : l.events s = (l.selection.note :: l.told ++
      (if l.Echoes s then [.echoed l.text] else []) ++ [.called l.call]) ++
        (.logged (.exited l.status) :: l.behind) := by
    simp [Started.events, Started.happening]
  rw [hsplit, List.getLast?_append_of_ne_nil _ (List.cons_ne_nil _ _)]
  refine getLast?_ne_of_isIdle (fun event he => ?_) prompt
  rcases List.mem_cons.1 he with rfl | he
  · rfl
  · exact hl.idle event he

/-- A command that is started, and what comes behind it. -/
theorem Report.cons (h : s.Report e opening started stopped) {l : Started} (hl : l.Proper s) :
    s.Report (e.after (l.events s)) [] ({ l with behind := l.behind ++ opening } :: started)
      stopped where
  events := by
    have hbehind : ({ l with behind := l.behind ++ opening } : Started).events s =
        l.events s ++ opening := (List.append_assoc _ l.behind opening).symm
    rw [SessionEnd.events_after, h.events, List.flatMap_cons, hbehind]
    simp only [List.nil_append, List.append_assoc]
  idle _ he := nomatch he
  proper l' hl' := by
    rcases List.mem_cons.1 hl' with rfl | hl'
    · exact { hl with
        idle := fun event he => (List.mem_append.1 he).elim (hl.idle event) (h.idle event) }
    · exact h.proper l' hl'
  stops := h.stops
  ends := h.ends.trans (stopsCommand_after (Started.getLast?_events_ne hl)).symm
  prompt hresult := exists_prompt_after _ (h.prompt hresult)

/-- There is a report of the session. -/
def Reported (s : Session) (e : SessionEnd) : Prop :=
  ∃ opening started stopped, s.Report e opening started stopped

/-- Running a selected command adds it to the report. -/
theorem reported_execute (h : s.config.WellFormed) {p : Place} (hp : p.Reachable s.config)
    {text : Text} {selection : Selection}
    (hs : (p.feed s.config text).reading = .selected selection) (m : Moment) (typed : List Text)
    (ih : ∀ next : Moment, next.place.Reachable s.config → s.Reported (s.readOn next typed)) :
    s.Reported ((s.resume typed (s.execute m (p.feed s.config text).place selection)).after
      (walked (p.feed s.config text))) := by
  obtain ⟨menu, hmenu⟩ := (hp.settled h).exists_menu
  obtain ⟨entered, hidle, hwalked⟩ := exists_walked_of_selected h hmenu hs
  have hfound : selection.Found s.config := (Place.route_of_selected h (hp.route h) hs).2
  have hcarries := s.carries_execute m (p.feed s.config text).place hfound
  generalize s.execute m (p.feed s.config text).place selection = step at hcarries
  rw [hwalked, ← SessionEnd.after_after]
  cases hcarries with
  | stops hstops =>
      exact ⟨_, _, _, (report_of_stops hfound hstops (p.feed s.config text).place).after hidle⟩
  | @ends l result hl hselection hbehind hresult =>
      have hend : s.Report ⟨result, (p.feed s.config text).place, []⟩ [] [] none := by
        refine report_of_end _ fun failure hfailure => ?_
        obtain ⟨status, line, rfl⟩ := hresult failure hfailure
        rfl
      have hwhole := (hend.cons hl).after hidle
      rw [Started.events_of_behind_nil hbehind, hselection, ← SessionEnd.after_after] at hwhole
      simp only [SessionEnd.after, List.append_nil] at hwhole ⊢
      exact ⟨_, _, _, hwhole⟩
  | @goesOn l hl hselection hbehind rest =>
      obtain ⟨opening, started, stopped, hrest⟩ := ih
        ⟨(p.feed s.config text).place.enter selection.menu selection.path, none, [], rest⟩
        (.enter (hp.feed text) hp hs)
      have hlogged : ∀ event ∈ [Event.logged (.repeating selection.menu)], event.isIdle = true :=
        fun event he => List.mem_singleton.1 he ▸ rfl
      have hwhole := ((hrest.after hlogged).cons hl).after hidle
      rw [Started.events_of_behind_nil hbehind, hselection, ← SessionEnd.after_after,
        SessionEnd.after_after (l.happening s)] at hwhole
      exact ⟨_, _, _, hwhole⟩

/-- Every step of a session adds to the report. -/
theorem kept_reported (h : s.config.WellFormed) : s.Kept s.Reported where
  after hbefore := by
    rintro ⟨opening, started, stopped, hrest⟩
    exact ⟨_, _, _, hrest.after hbefore⟩
  fails failure place hfailure :=
    ⟨_, _, _, report_of_end place fun failure' hf => by cases hf; exact hfailure⟩
  execute m typed hp hs ih := reported_execute h hp hs m typed ih

/-- The report is the same whether leaving a prompt is the end of the input or an interruption. -/
theorem Report.leaving (h : s.Report e opening started stopped) {failure : Failure}
    (hleaving : failure = .endOfInput ∨ failure = .interrupted) :
    s.Report (e.leaving failure) opening started stopped := by
  obtain ⟨result, place, events⟩ := e
  rcases hleaving with rfl | rfl
  · have hsame : SessionEnd.leaving .endOfInput ⟨result, place, events⟩ =
        ⟨result, place, events⟩ := by
      rcases result with failure | _
      · cases failure <;> rfl
      · rfl
    rw [hsame]
    exact h
  · by_cases hleft : result = .error .endOfInput
    · subst hleft
      refine ⟨h.events, h.idle, h.proper, h.stops, h.ends.trans ?_, nofun⟩
      exact ⟨fun _ => ⟨_, rfl, .inr ⟨rfl, h.prompt rfl⟩⟩, fun _ => ⟨_, rfl, .inl rfl⟩⟩
    · have hsame : SessionEnd.leaving .interrupted ⟨result, place, events⟩ =
          ⟨result, place, events⟩ := by
        rcases result with failure | _
        · cases failure <;> first | rfl | exact absurd rfl hleft
        · rfl
      rw [hsame]
      exact h

/-- The selections, echoes and calls of a session, in order, are those of its commands. -/
theorem Report.filter_isMark (h : s.Report e opening started stopped) :
    e.events.filter Event.isMark =
      started.flatMap (Started.marks s) ++ stopped.toList.map (·.selection.note) := by
  have hidle {events : List Event} (he : ∀ event ∈ events, event.isIdle = true) :
      events.filter Event.isMark = [] :=
    List.filter_eq_nil_iff.2 fun event hmem => by simp [Event.isMark, he event hmem]
  have htalk {events : List Event} (he : ∀ event ∈ events, event.isTalk = true) :
      events.filter Event.isMark = [] :=
    List.filter_eq_nil_iff.2 fun event hmem => by simp [Event.isMark, he event hmem]
  have hstarted : ∀ l ∈ started, (l.events s).filter Event.isMark = l.marks s := by
    intro l hl
    rw [Started.events, Started.happening, ← List.cons_append, ← List.cons_append,
      List.filter_append, List.filter_append, List.filter_append, hidle (h.proper l hl).idle,
      List.filter_cons_of_pos rfl, htalk (h.proper l hl).talk, Started.marks]
    by_cases hechoes : l.Echoes s
    · rw [if_pos hechoes]
      rfl
    · rw [if_neg hechoes]
      rfl
  rw [h.events, List.filter_append, List.filter_append, hidle h.idle, List.nil_append,
    List.filter_flatMap, List.flatMap_congr hstarted]
  cases stopped with
  | none => rfl
  | some t =>
      have hstopped : t.events.filter Event.isMark = [t.selection.note] := by
        rw [Stopped.events, List.filter_cons, htalk (h.stops t rfl).talk]
        rfl
      simp [hstopped]

/-- What concerns only selections, echoes and calls comes from the commands. -/
theorem Report.filterMap {α : Type} {f : Event → Option α}
    (hf : ∀ event, event.isMark = false → f event = none)
    (h : s.Report e opening started stopped) :
    e.events.filterMap f = (started.flatMap fun l => (l.marks s).filterMap f) ++
      (stopped.toList.map (·.selection.note)).filterMap f := by
  have hmarks : e.events.filterMap f = (e.events.filter Event.isMark).filterMap f := by
    rw [List.filterMap_filter]
    refine List.filterMap_congr fun event _ => ?_
    cases hevent : event.isMark with
    | true => rfl
    | false => exact hf event hevent
  rw [hmarks, h.filter_isMark, List.filterMap_append, List.filterMap_flatMap]

/-- The calls of a session are those of the commands it starts. -/
theorem Report.calls (h : s.Report e opening started stopped) :
    e.events.filterMap Event.call? = started.map (·.call) := by
  have hmarks (l : Started) : (l.marks s).filterMap Event.call? = [l.call] := by
    rw [Started.marks]
    split <;> rfl
  have hnotes : (stopped.toList.map (·.selection.note)).filterMap Event.call? = [] := by
    cases stopped <;> rfl
  rw [h.filterMap (fun event he => by cases event <;> first | rfl | cases he), hnotes,
    List.append_nil]
  simp only [hmarks]
  exact List.map_eq_flatMap.symm

/-- The echoed texts of a session are those of the commands it starts, as far as they are to be
echoed. -/
theorem Report.echoes (h : s.Report e opening started stopped) :
    e.events.filterMap Event.echo? = (started.filter fun l => l.Echoes s).map (·.text) := by
  have hmarks (l : Started) :
      (l.marks s).filterMap Event.echo? = if l.Echoes s then [l.text] else [] := by
    rw [Started.marks]
    split <;> rfl
  have hnotes : (stopped.toList.map (·.selection.note)).filterMap Event.echo? = [] := by
    cases stopped <;> rfl
  rw [h.filterMap (fun event he => by cases event <;> first | rfl | cases he), hnotes,
    List.append_nil]
  simp only [hmarks]
  clear h
  induction started with
  | nil => rfl
  | cons l started ih =>
      rw [List.flatMap_cons, ih, List.filter_cons]
      by_cases hechoes : l.Echoes s <;> simp [hechoes]

/-- **What a session echoes and calls.** Each command that it selects is started, except for the
last one if the session ends with a failure before its call; that one is neither echoed nor called.
For each of the others there is one call, with the words of the chosen shell and the expanded text,
and right before it the echo of the text, if the mark of the command differs from what the file
says. There are no other echoes and calls. Nothing of this depends on whether a prompt is left at
the end of the input or by an interruption. -/
theorem exists_report {text : Text} (h : Config.ofText text = .ok s.config) (keys : Option Text)
    (typed : List Text) (script : Script) {failure : Failure}
    (hleaving : failure = .endOfInput ∨ failure = .interrupted) :
    ∃ opening started stopped,
      s.Report ((s.run keys typed script).leaving failure) opening started stopped ∧
      ((s.run keys typed script).leaving failure).events.filter Event.isMark =
        started.flatMap (Started.marks s) ++ stopped.toList.map (·.selection.note) ∧
      ((s.run keys typed script).leaving failure).events.filterMap Event.call? =
        started.map (·.call) ∧
      ((s.run keys typed script).leaving failure).events.filterMap Event.echo? =
        (started.filter fun l => l.Echoes s).map (·.text) := by
  have hwell := Config.wellFormed_of_ofText h
  obtain ⟨opening, started, stopped, hreport⟩ := (kept_reported hwell).run hwell keys typed script
  have hleft := hreport.leaving hleaving
  exact ⟨opening, started, stopped, hleft, hleft.filter_isMark, hleft.calls, hleft.echoes⟩

end

/-- Two commands that repeat, of which one is not to be echoed, and a third one that needs the shell
of the environment, which cannot be read. -/
theorem exists_report_shell :
    ∃ (s : Session) (opening : List Event) (started : List Started) (stopped : Option Stopped),
      Config.ofText ("menu root \x7b x: cmd \x7b set repeat shell sh -c\n @\"y\" \x7d ".toList ++
        "k: cmd \x7b set repeat shell sh\n \"w\" \x7d z: \"v\" \x7d".toList) = .ok s.config ∧
      s.Report ((s.run (some "x".toList) ["k".toList, "z".toList] ⟨[], []⟩).leaving .interrupted)
        opening started stopped ∧
      ((s.run (some "x".toList) ["k".toList, "z".toList] ⟨[], []⟩).leaving
        .interrupted).events.filter Event.isMark =
          started.flatMap (Started.marks s) ++ stopped.toList.map (·.selection.note) ∧
      ((s.run (some "x".toList) ["k".toList, "z".toList] ⟨[], []⟩).leaving
        .interrupted).events.filterMap Event.call? = started.map (·.call) ∧
      ((s.run (some "x".toList) ["k".toList, "z".toList] ⟨[], []⟩).leaving
        .interrupted).events.filterMap Event.echo? =
          (started.filter fun l => l.Echoes s).map (·.text) ∧
      started.map (·.call.argv) =
        [["sh".toList, "-c".toList, "y".toList], ["sh".toList, "w".toList]] ∧
      (started.filter fun l => l.Echoes s).map (·.text) = ["w".toList] := by
  obtain ⟨s, hs, hcalls, hechoes⟩ : ∃ s : Session,
      Config.ofText ("menu root \x7b x: cmd \x7b set repeat shell sh -c\n @\"y\" \x7d ".toList ++
        "k: cmd \x7b set repeat shell sh\n \"w\" \x7d z: \"v\" \x7d".toList) = .ok s.config ∧
      (((s.run (some "x".toList) ["k".toList, "z".toList] ⟨[], []⟩).leaving
        .interrupted).events.filterMap Event.call?).map (·.argv) =
          [["sh".toList, "-c".toList, "y".toList], ["sh".toList, "w".toList]] ∧
      ((s.run (some "x".toList) ["k".toList, "z".toList] ⟨[], []⟩).leaving
        .interrupted).events.filterMap Event.echo? = ["w".toList] :=
    ⟨⟨⟨⟨none, true⟩, [], [⟨"root".toList, none, [("x".toList, .command
        ⟨[.literal "y".toList], none, true,
          some ⟨true, false, [], some ⟨"sh".toList, ["-c".toList]⟩⟩⟩),
      ("k".toList, .command ⟨[.literal "w".toList], none, false,
          some ⟨true, false, [], some ⟨"sh".toList, []⟩⟩⟩),
      ("z".toList, .command ⟨[.literal "v".toList], none, false, none⟩)]⟩]⟩,
        ⟨[(Environment.shellName, "\"".toList)], none⟩, .stay, [], true⟩,
      by cbv, by cbv, by cbv⟩
  have hleaving : Failure.interrupted = .endOfInput ∨ Failure.interrupted = .interrupted := .inr rfl
  obtain ⟨opening, started, stopped, hreport, hfilter, hall, htold⟩ := exists_report hs
    (some "x".toList) ["k".toList, "z".toList] ⟨[], []⟩ hleaving
  refine ⟨s, opening, started, stopped, hs, hreport, hfilter, hall, htold, ?_, ?_⟩
  · rw [hall, List.map_map] at hcalls
    exact hcalls
  · rw [← htold, hechoes]

end Session

end KeyMenu
