import KeyMenu.Proofs.Config.Graph
import KeyMenu.Proofs.Expr.Expansion
import KeyMenu.Run.Command

/-!
# How the run of a command can fail

With a configuration that has been read, every command expands. What is left to fail is a prompt
without an answer, a process that does not succeed, and the shell that the environment names where
neither the command nor the file names one.

* `Act.FailsOnly`: what the failures of an act can be, with one rule for acts in sequence;
* `Act.Talks`: acts that prompt, warn and read lines, such as finding values for variables;
* `Config.run_failsOnly`.
-/

namespace KeyMenu

/-- The key and the menu of a command that has been selected. -/
def Event.selected? : Event → Option (Text × Text)
  | .logged (.walked (.command key menu)) => some (key, menu)
  | _ => none

namespace Act

variable {α β : Type} {P Q : Failure → Prop}

/-- All failures of the act are of the given kind, and no command is selected meanwhile. -/
structure FailsOnly (P : Failure → Prop) (x : Act α) : Prop where
  failure : ∀ script failure, (x.run script).result = .error failure → P failure
  events : ∀ script, ∀ event ∈ (x.run script).events, event.selected? = none

theorem FailsOnly.mono {x : Act α} (hx : x.FailsOnly P) (h : ∀ failure, P failure → Q failure) :
    x.FailsOnly Q :=
  ⟨fun script failure hf => h failure (hx.failure script failure hf), hx.events⟩

theorem failsOnly_pure (a : α) : (pure a : Act α).FailsOnly P :=
  ⟨fun _ _ hf => (nomatch hf), fun _ _ he => (nomatch he)⟩

theorem failsOnly_emit {event : Event} (h : event.selected? = none) : (emit event).FailsOnly P := by
  refine ⟨fun _ _ hf => (nomatch hf), fun _ other he => ?_⟩
  rw [List.mem_singleton.1 he]
  exact h

theorem failsOnly_ofExcept {result : Except Failure α}
    (h : ∀ failure, result = .error failure → P failure) : (ofExcept result).FailsOnly P :=
  ⟨fun _ failure hf => h failure hf, fun _ _ he => nomatch he⟩

theorem failsOnly_readLine (h : P .endOfInput) : readLine.FailsOnly P := by
  refine ⟨fun script failure hf => ?_, fun script event he => ?_⟩
  · cases hlines : script.lines <;> simp only [readLine, hlines] at hf <;> cases hf
    exact h
  · cases hlines : script.lines <;> simp only [readLine, hlines] at he <;> cases he

theorem failsOnly_start (call : Call) : (start call).FailsOnly P := by
  refine ⟨fun script failure hf => ?_, fun script event he => ?_⟩
  · cases hstatuses : script.statuses <;> simp only [start, hstatuses] at hf <;> cases hf
  · have hcalled : event = .called call := by
      cases hstatuses : script.statuses <;> simpa [start, hstatuses] using he
    rw [hcalled]
    rfl

/-- A sequence fails as its acts do. -/
theorem FailsOnly.bind {x : Act α} {f : α → Act β} (hx : x.FailsOnly P)
    (hf : ∀ a, (f a).FailsOnly P) : (x >>= f).FailsOnly P := by
  have hrun : ∀ script, (∀ failure, ((x >>= f).run script).result = .error failure → P failure) ∧
      ∀ event ∈ ((x >>= f).run script).events, event.selected? = none := by
    intro script
    have hfailure := hx.failure script
    have hevents := hx.events script
    cases h : x.run script with
    | mk result rest events =>
        rw [h] at hfailure hevents
        cases result with
        | error failure =>
            rw [run_bind_of_error h]
            refine ⟨fun failure' heq => ?_, hevents⟩
            cases heq
            exact hfailure failure rfl
        | ok a =>
            rw [run_bind_of_ok h]
            refine ⟨(hf a).failure rest, fun event he => ?_⟩
            rcases List.mem_append.1 he with he | he
            · exact hevents event he
            · exact (hf a).events rest event he
  exact ⟨fun script => (hrun script).1, fun script => (hrun script).2⟩

/-- The act only talks to someone: it prompts, warns and reads lines. -/
inductive Talks : {α : Type} → Act α → Prop
  | pure {α : Type} (a : α) : Talks (Pure.pure a : Act α)
  | prompt (prompt : Text) : Talks (emit (.prompted prompt))
  | warn (message : Text) : Talks (emit (.warned message))
  | readLine : Talks readLine
  | bind {α β : Type} {x : Act α} {f : α → Act β} (hx : Talks x) (hf : ∀ a, Talks (f a)) :
      Talks (x >>= f)

/-- Nothing but the end of the input makes such an act fail. -/
theorem Talks.failsOnly {x : Act α} (hx : x.Talks) (h : P .endOfInput) : x.FailsOnly P := by
  induction hx with
  | pure a => exact failsOnly_pure a
  | prompt _ | warn _ => exact failsOnly_emit rfl
  | readLine => exact failsOnly_readLine h
  | bind _ _ ihx ihf => exact ihx.bind ihf

end Act

/-! ### Values for variables -/

namespace Variable

theorem ask_talks (v : Variable) : v.ask.Talks :=
  (Act.Talks.prompt _).bind fun _ => Act.Talks.readLine.bind fun _ => .pure _

theorem collect_talks (vars : List Variable) (given : List Text) :
    (collect vars given).Talks := by
  induction vars generalizing given with
  | nil => exact .pure _
  | cons v vs ih =>
      cases given with
      | nil => exact v.ask_talks.bind fun _ => (ih []).bind fun _ => .pure _
      | cons value given => exact (ih given).bind fun _ => .pure _

/-- Values for variables are found by talking. -/
theorem resolve_talks (vars : List Variable) (given : List Text) : (resolve vars given).Talks := by
  have hcollect := (collect_talks vars given).bind fun pairs =>
    Act.Talks.pure (Table.ofPairs pairs)
  unfold resolve
  split
  · exact (Act.Talks.warn _).bind fun _ => hcollect
  · exact (Act.Talks.pure ()).bind fun _ => hcollect

end Variable

/-! ### Commands -/

/-- How the run of a command of a configuration can fail. -/
inductive Config.RunFailure (c : Config) (around : Surroundings) (command : Command) :
    Failure → Prop
  | endOfInput : RunFailure c around command .endOfInput
  | exited (status : Int) (text : Text) : RunFailure c around command (.exited status text)
  | malformedShell {error : ParseError} (hcommand : command.shell = none)
      (hfile : c.settings.shell = none)
      (hread : Shell.ofEnvironment around.environ = .error error) :
      RunFailure c around command (.malformedShell error)

namespace Config

variable {c : Config} {around : Surroundings} {command : Command}

/-- A command without undefined references has a plan, unless its shell cannot be read. -/
theorem plan_error (h : c.WellFormed)
    (hrefs : ∀ name ∈ command.expr.references, ∃ e, c.snippets.get? name = some e)
    {values : Table Text} {failure : Failure}
    (hf : c.plan around command values = .error failure) :
    c.RunFailure around command failure := by
  obtain ⟨text, htext⟩ := Snippets.exists_expand_of_faults_nil h.soundGraph.snippets hrefs
  rw [plan, htext] at hf
  cases hcommand : command.shell with
  | some shell =>
      rw [hcommand] at hf
      cases hf
  | none =>
      cases hfile : c.settings.shell with
      | some shell =>
          rw [hcommand, hfile] at hf
          cases hf
      | none =>
          cases hread : Shell.ofEnvironment around.environ with
          | ok shell =>
              rw [hcommand, hfile, Shell.choose, hread] at hf
              cases hf
          | error error =>
              rw [hcommand, hfile, Shell.choose, hread] at hf
              cases hf
              exact .malformedShell hcommand hfile hread

theorem run_failsOnly (h : c.WellFormed)
    (hrefs : ∀ name ∈ command.expr.references, ∃ e, c.snippets.get? name = some e)
    (given : List Text) : (c.run around command given).FailsOnly (c.RunFailure around command) := by
  refine ((Variable.resolve_talks command.vars given).failsOnly .endOfInput).bind fun values => ?_
  refine (Act.failsOnly_ofExcept fun failure hf => plan_error h hrefs hf).bind fun plan => ?_
  -- With or without an echo before it, the command is started and its status looked at.
  have hrest : Act.FailsOnly (c.RunFailure around command) (do
      let status ← Act.start plan.call
      Act.emit (.logged (.exited status))
      if status ≠ 0 ∧ command.ignoresResult = false then
        Act.fail (.exited status plan.text)
      else
        return status) := by
    refine (Act.failsOnly_start plan.call).bind fun status => ?_
    refine (Act.failsOnly_emit rfl).bind fun _ => ?_
    split
    · refine Act.failsOnly_ofExcept fun failure hf => ?_
      cases hf
      exact .exited status plan.text
    · exact Act.failsOnly_pure status
  split
  · exact (Act.failsOnly_emit rfl).bind fun _ => hrest
  · exact (Act.failsOnly_pure ()).bind fun _ => hrest

end Config

end KeyMenu
