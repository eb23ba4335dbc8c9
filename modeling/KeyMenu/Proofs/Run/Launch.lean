import KeyMenu.Proofs.Run.Failure

/-!
# What the run of a command does

First everything that can fail is done: values are found, the plan is made, the text is echoed. Then
the process is started, and its status decides. So a run stops before its call, or makes exactly one
and does nothing behind it.

* `Act.Preliminary`: an act that makes no call, with one rule for acts in sequence;
* `Config.prepare`, and `Config.run_eq_prepare_bind`: what comes before the call;
* `Config.Runs`, `Config.runs_run`: the two ways a run can go.
-/

namespace KeyMenu

/-- The call. -/
def Event.call? : Event → Option Call
  | .called call => some call
  | _ => none

/-- Something that can come before a call: a prompt, a warning, an echoed command or a record of
the log. -/
def Event.isPreliminary : Event → Bool
  | .shown _ => false
  | .called _ => false
  | _ => true

theorem Event.call?_of_isPreliminary {event : Event} (h : event.isPreliminary = true) :
    event.call? = none := by
  cases event with
  | called call => cases h
  | _ => rfl

/-- The status of the next process: that of processes of which nothing is said is zero. -/
def Script.nextStatus (script : Script) : Int := script.statuses.headD 0

/-- The answers that are left once a process has ended. -/
def Script.dropStatus (script : Script) : Script :=
  { script with statuses := script.statuses.tail }

namespace Act

variable {α β : Type}

/-- The act makes no call and shows no menu, takes no status, and does not fail for one. -/
structure Preliminary (x : Act α) : Prop where
  events : ∀ script, ∀ event ∈ (x.run script).events, event.isPreliminary = true
  statuses : ∀ script, (x.run script).script.statuses = script.statuses
  failure : ∀ script status text, (x.run script).result ≠ .error (.exited status text)

theorem preliminary_pure (a : α) : (pure a : Act α).Preliminary :=
  ⟨fun _ _ he => (nomatch he), fun _ => rfl, fun _ _ _ hf => (nomatch hf)⟩

theorem preliminary_emit {event : Event} (h : event.isPreliminary = true) :
    (emit event).Preliminary := by
  refine ⟨fun _ other he => ?_, fun _ => rfl, fun _ _ _ hf => (nomatch hf)⟩
  rw [List.mem_singleton.1 he]
  exact h

theorem preliminary_ofExcept {result : Except Failure α}
    (h : ∀ status text, result ≠ .error (.exited status text)) : (ofExcept result).Preliminary :=
  ⟨fun _ _ he => (nomatch he), fun _ => rfl, fun _ => h⟩

theorem preliminary_readLine : readLine.Preliminary := by
  refine ⟨fun script event he => ?_, fun script => ?_, fun script status text hf => ?_⟩
  all_goals cases hlines : script.lines
  all_goals simp_all [readLine]

/-- A sequence of such acts is one. -/
theorem Preliminary.bind {x : Act α} {f : α → Act β} (hx : x.Preliminary)
    (hf : ∀ a, (f a).Preliminary) : (x >>= f).Preliminary := by
  have hrun : ∀ script, (∀ event ∈ ((x >>= f).run script).events, event.isPreliminary = true) ∧
      ((x >>= f).run script).script.statuses = script.statuses ∧
      ∀ status text, ((x >>= f).run script).result ≠ .error (.exited status text) := by
    intro script
    have hevents := hx.events script
    have hstatuses := hx.statuses script
    have hfailure := hx.failure script
    cases h : x.run script with
    | mk result rest events =>
        rw [h] at hevents hstatuses hfailure
        cases result with
        | error failure =>
            rw [run_bind_of_error h]
            refine ⟨hevents, hstatuses, fun status text heq => hfailure status text ?_⟩
            cases heq
            rfl
        | ok a =>
            rw [run_bind_of_ok h]
            refine ⟨fun event he => ?_, ((hf a).statuses rest).trans hstatuses,
              (hf a).failure rest⟩
            rcases List.mem_append.1 he with he | he
            · exact hevents event he
            · exact (hf a).events rest event he
  exact ⟨fun script => (hrun script).1, fun script => (hrun script).2.1,
    fun script => (hrun script).2.2⟩

/-- Talking makes no call. -/
theorem Talks.preliminary {x : Act α} (hx : x.Talks) : x.Preliminary := by
  induction hx with
  | pure a => exact preliminary_pure a
  | prompt _ | warn _ => exact preliminary_emit rfl
  | readLine => exact preliminary_readLine
  | bind _ _ ihx ihf => exact ihx.bind ihf

/-- A process is started with the next status. -/
theorem run_start (call : Call) (script : Script) :
    (start call).run script = ⟨.ok script.nextStatus, script.dropStatus, [.called call]⟩ := by
  obtain ⟨lines, statuses⟩ := script
  cases statuses <;> rfl

end Act

/-! ### Before the call -/

/-- What the exit status of a command comes to. -/
def Command.verdict (command : Command) (text : Text) (status : Int) : Except Failure Int :=
  if status ≠ 0 ∧ command.ignoresResult = false then .error (.exited status text) else .ok status

theorem Command.verdict_eq_ok {command : Command} {status : Int} (text : Text)
    (h : status = 0 ∨ command.ignoresResult = true) : command.verdict text status = .ok status := by
  rw [verdict, if_neg]
  rintro ⟨hne, hcounts⟩
  rcases h with hzero | hignores
  · exact hne hzero
  · exact Bool.false_ne_true (hcounts.symm.trans hignores)

theorem Command.verdict_eq_error {command : Command} {status : Int} (text : Text)
    (h : ¬ (status = 0 ∨ command.ignoresResult = true)) :
    command.verdict text status = .error (.exited status text) := by
  rw [verdict, if_pos]
  exact ⟨fun hzero => h (.inl hzero), Bool.eq_false_iff.2 fun hignores => h (.inr hignores)⟩

namespace Config

/-- What is done before the process of a command is started: the plan is made, and its text is
echoed if it is to be. -/
def prepare (c : Config) (around : Surroundings) (command : Command) (given : List Text) :
    Act Plan := do
  let values ← Variable.resolve command.vars given
  let plan ← Act.ofExcept (c.plan around command values)
  if plan.echoes then
    Act.emit (.echoed plan.text)
  return plan

/-- The two ways the run of a command can go: something fails before its call, or the call is made,
its status is logged, and nothing happens any more. -/
inductive Runs (c : Config) (around : Surroundings) (command : Command) (given : List Text)
    (script : Script) : Ending Int → Prop
  | stops {failure : Failure} {rest : Script} {events : List Event}
      (hfailure : ∀ status text, failure ≠ .exited status text)
      (hevents : ∀ event ∈ events, event.isPreliminary = true) :
      Runs c around command given script ⟨.error failure, rest, events⟩
  | launches {plan : Plan} {rest : Script} {events : List Event}
      (hprepare : (c.prepare around command given).run script = ⟨.ok plan, rest, events⟩)
      (hstatuses : rest.statuses = script.statuses)
      (hevents : ∀ event ∈ events, event.isPreliminary = true) :
      Runs c around command given script
        ⟨command.verdict plan.text script.nextStatus, rest.dropStatus,
          events ++ [.called plan.call, .logged (.exited script.nextStatus)]⟩

variable {c : Config} {around : Surroundings} {command : Command} {given : List Text}

/-- A plan fails for an expansion or for a shell, and never for a status. -/
theorem plan_ne_exited {values : Table Text} (status : Int) (text : Text) :
    c.plan around command values ≠ .error (.exited status text) := by
  rw [plan]
  cases command.expr.expand c.snippets with
  | error error => simp
  | ok text => cases Shell.choose command.shell c.settings.shell around.environ <;> simp

theorem prepare_preliminary (c : Config) (around : Surroundings) (command : Command)
    (given : List Text) : (c.prepare around command given).Preliminary := by
  refine (Variable.resolve_talks command.vars given).preliminary.bind fun values => ?_
  refine (Act.preliminary_ofExcept plan_ne_exited).bind fun plan => ?_
  split
  · exact (Act.preliminary_emit rfl).bind fun _ => Act.preliminary_pure _
  · exact (Act.preliminary_pure ()).bind fun _ => Act.preliminary_pure _

/-- The call and the look at its status come behind everything else. -/
theorem run_eq_prepare_bind (c : Config) (around : Surroundings) (command : Command)
    (given : List Text) :
    c.run around command given = (do
      let plan ← c.prepare around command given
      let status ← Act.start plan.call
      Act.emit (.logged (.exited status))
      Act.ofExcept (command.verdict plan.text status)) := by
  have hverdict : ∀ (text : Text) (status : Int),
      Act.ofExcept (command.verdict text status) =
        if status ≠ 0 ∧ command.ignoresResult = false then Act.fail (.exited status text)
        else return status := by
    intro text status
    rw [Command.verdict]
    split <;> rfl
  simp only [run, prepare, Act.bind_assoc, hverdict]
  congr
  funext values
  congr
  funext plan
  split <;> simp only [Act.bind_assoc, Act.pure_bind]

/-- The run of a command goes in one of the two ways. -/
theorem runs_run (script : Script) :
    c.Runs around command given script ((c.run around command given).run script) := by
  obtain ⟨hevents, hstatuses, hfailure⟩ := prepare_preliminary c around command given
  have hevents := hevents script
  have hstatuses := hstatuses script
  have hfailure := hfailure script
  rw [run_eq_prepare_bind]
  cases h : (c.prepare around command given).run script with
  | mk result rest events =>
      rw [h] at hevents hstatuses hfailure
      cases result with
      | error failure =>
          rw [Act.run_bind_of_error h]
          refine .stops (fun status text heq => hfailure status text ?_) hevents
          rw [heq]
      | ok plan =>
          have hnext : rest.nextStatus = script.nextStatus := congrArg (·.headD 0) hstatuses
          rw [Act.run_bind_of_ok h, Act.run_bind_of_ok (Act.run_start plan.call rest), hnext]
          exact .launches h hstatuses hevents

end Config

end KeyMenu
