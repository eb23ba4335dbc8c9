import KeyMenu.Proofs.Config.WellFormed
import KeyMenu.Proofs.Run.Launch
import KeyMenu.Session.Basic
import Mathlib

/-!
# What the variables of a command get

The values for the variables of a command are the words behind its key and the extra values, in
this order; a variable for which these do not reach gets a typed line, or its default for an empty
one. The process is started with the environment overlaid with exactly these values.

* `Variable.values`, with `Variable.run_collect` and `Variable.run_resolve`: what is asked, and the
  values that come of it;
* `Config.prepare_eq_ok_iff`: what has happened once a command has a plan; `Config.Performs`: how a
  command is run, event by event;
* `Variable.Accepts`, `Variable.Supplied`: the values, without a word about how they are found;
* `Command.Hands`, `Session.hands_of_called`: the main theorem.
-/

namespace KeyMenu

/-- A failure that ends a selected command before its call: the words behind its key do not split, a
prompt is left without an answer, or there is no plan. -/
def Failure.precedesCall : Failure → Bool
  | .unsplittable _ | .endOfInput | .expansion _ | .malformedShell _ => true
  | _ => false

/-- A prompt or a warning. -/
def Event.isTalk : Event → Bool
  | .prompted _ | .warned _ => true
  | _ => false

namespace Act

variable {α β : Type} {x : Act α} {f : α → Act β} {script rest : Script} {events : List Event}

/-- Talking is all that happens in an act that only talks. -/
theorem Talks.isTalk_of_mem (hx : x.Talks) (script : Script) :
    ∀ event ∈ (x.run script).events, event.isTalk = true := by
  induction hx generalizing script with
  | pure a => exact fun _ he => nomatch he
  | prompt _ | warn _ =>
      intro event he
      rw [List.mem_singleton.1 he]
      rfl
  | readLine =>
      obtain ⟨lines, statuses⟩ := script
      cases lines <;> exact fun _ he => nomatch he
  | @bind _ _ x f hx hf ihx ihf =>
      have hfirst := ihx script
      cases h : x.run script with
      | mk result rest events =>
          rw [h] at hfirst
          cases result with
          | error failure =>
              rw [run_bind_of_error h]
              exact hfirst
          | ok a =>
              rw [run_bind_of_ok h]
              intro event he
              exact (List.mem_append.1 he).elim (hfirst event) (ihf a rest event)

/-- A sequence that succeeds is made of two successes. -/
theorem exists_of_run_bind_eq_ok {b : β} (h : (x >>= f).run script = ⟨.ok b, rest, events⟩) :
    ∃ a mid before behind, x.run script = ⟨.ok a, mid, before⟩ ∧
      (f a).run mid = ⟨.ok b, rest, behind⟩ ∧ events = before ++ behind := by
  cases hx : x.run script with
  | mk result mid before =>
      cases result with
      | error failure =>
          rw [run_bind_of_error hx] at h
          cases h
      | ok a =>
          rw [run_bind_of_ok hx] at h
          cases hf : (f a).run mid with
          | mk result' rest' behind =>
              rw [hf] at h
              cases h
              exact ⟨a, mid, before, behind, rfl, hf, rfl⟩

/-- A sequence that fails does so in its first act, or in the second one after a success. -/
theorem cases_of_run_bind_eq_error {failure : Failure}
    (h : (x >>= f).run script = ⟨.error failure, rest, events⟩) :
    x.run script = ⟨.error failure, rest, events⟩ ∨
      ∃ a mid before behind, x.run script = ⟨.ok a, mid, before⟩ ∧
        (f a).run mid = ⟨.error failure, rest, behind⟩ ∧ events = before ++ behind := by
  cases hx : x.run script with
  | mk result mid before =>
      cases result with
      | error failure' =>
          rw [run_bind_of_error hx] at h
          cases h
          exact .inl rfl
      | ok a =>
          rw [run_bind_of_ok hx] at h
          cases hf : (f a).run mid with
          | mk result' rest' behind =>
              rw [hf] at h
              cases h
              exact .inr ⟨a, mid, before, behind, rfl, hf, rfl⟩

end Act

/-! ### Asking -/

namespace Variable

/-- The question for the value of a variable. -/
def question (v : Variable) : Event := .prompted (promptText v.label v.default)

/-- The values for variables: the given ones as far as they go, and then typed lines. -/
def values (vars : List Variable) (given lines : List Text) : List Text :=
  given.take vars.length ++
    List.zipWith (fun v line => answerValue v.default line) (vars.drop given.length) lines

theorem run_ask (v : Variable) (line : Text) (lines : List Text) (statuses : List Int) :
    v.ask.run ⟨line :: lines, statuses⟩ =
      ⟨.ok (answerValue v.default line), ⟨lines, statuses⟩, [v.question]⟩ := rfl

theorem run_ask_of_no_line (v : Variable) (statuses : List Int) :
    v.ask.run ⟨[], statuses⟩ = ⟨.error .endOfInput, ⟨[], statuses⟩, [v.question]⟩ := rfl

/-- With enough lines, each variable that no given value is left for is asked for, in order. -/
theorem run_collect {vars : List Variable} {given : List Text} {script : Script}
    (h : vars.length ≤ given.length + script.lines.length) :
    (collect vars given).run script =
      ⟨.ok ((vars.map (·.name)).zip (values vars given script.lines)),
        { script with lines := script.lines.drop (vars.length - given.length) },
        (vars.drop given.length).map question⟩ := by
  induction vars generalizing given script with
  | nil => simp [collect]
  | cons v vs ih =>
      cases given with
      | cons value given =>
          have hrest : vs.length ≤ given.length + script.lines.length := by
            simp only [List.length_cons] at h
            omega
          rw [collect, Act.run_bind_of_ok (ih hrest)]
          simp [values]
      | nil =>
          obtain ⟨lines, statuses⟩ := script
          cases lines with
          | nil => simp at h
          | cons line lines =>
              have hrest : vs.length ≤ ([] : List Text).length + lines.length := by
                simpa using h
              rw [collect, Act.run_bind_of_ok (v.run_ask line lines statuses),
                Act.run_bind_of_ok (@ih [] ⟨lines, statuses⟩ hrest)]
              simp [values]

/-- Without enough lines, the variables are asked for until one gets no answer. -/
theorem exists_run_collect_of_short {vars : List Variable} {given : List Text} {script : Script}
    (h : given.length + script.lines.length < vars.length) :
    ∃ rest early v, (collect vars given).run script =
      ⟨.error .endOfInput, rest, early ++ [question v]⟩ := by
  induction vars generalizing given script with
  | nil => simp at h
  | cons v vs ih =>
      cases given with
      | cons value given =>
          have hrest : given.length + script.lines.length < vs.length := by
            simp only [List.length_cons] at h
            omega
          obtain ⟨rest, early, last, hrun⟩ := ih hrest
          exact ⟨rest, early, last, Act.run_bind_of_error hrun⟩
      | nil =>
          obtain ⟨lines, statuses⟩ := script
          cases lines with
          | nil => exact ⟨_, [], v, Act.run_bind_of_error (v.run_ask_of_no_line statuses)⟩
          | cons line lines =>
              have hrest : ([] : List Text).length + lines.length < vs.length := by
                simpa using h
              obtain ⟨rest, early, last, hrun⟩ := @ih [] ⟨lines, statuses⟩ hrest
              refine ⟨rest, v.question :: early, last, ?_⟩
              rw [collect, Act.run_bind_of_ok (v.run_ask line lines statuses),
                Act.run_bind_of_error hrun]
              rfl

/-- The warning about given values that no variable takes, if there are any. -/
def surplusWarnings (vars : List Variable) (given : List Text) : List Event :=
  if vars.length < given.length then [.warned (surplusWarning (given.drop vars.length))] else []

theorem run_resolve_eq (vars : List Variable) (given : List Text) (script : Script) :
    (resolve vars given).run script =
      let ending := (collect vars given >>= fun pairs => pure (Table.ofPairs pairs)).run script
      { ending with events := surplusWarnings vars given ++ ending.events } := by
  unfold resolve surplusWarnings
  split
  · exact Act.run_bind_of_ok (x := Act.emit _) rfl
  · rfl

/-- The variables have values once they have been asked for as often as need be; without enough
lines, a question is the last that happens. -/
theorem run_resolve (vars : List Variable) (given : List Text) (script : Script) :
    (vars.length ≤ given.length + script.lines.length ∧
      (resolve vars given).run script =
        ⟨.ok (Table.ofPairs ((vars.map (·.name)).zip (values vars given script.lines))),
          { script with lines := script.lines.drop (vars.length - given.length) },
          surplusWarnings vars given ++ (vars.drop given.length).map question⟩) ∨
    ∃ rest early v, (resolve vars given).run script =
      ⟨.error .endOfInput, rest, early ++ [question v]⟩ := by
  rw [run_resolve_eq]
  by_cases henough : vars.length ≤ given.length + script.lines.length
  · rw [Act.run_bind_of_ok (run_collect henough), Act.run_pure, List.append_nil]
    exact .inl ⟨henough, rfl⟩
  · obtain ⟨rest, early, v, hshort⟩ := exists_run_collect_of_short (Nat.lt_of_not_le henough)
    rw [Act.run_bind_of_error hshort]
    refine .inr ⟨rest, surplusWarnings vars given ++ early, v, ?_⟩
    rw [List.append_assoc]

/-- What has happened once the variables have values. -/
theorem resolve_eq_ok {vars : List Variable} {given : List Text} {script rest : Script}
    {found : Table Text} {events : List Event}
    (h : (resolve vars given).run script = ⟨.ok found, rest, events⟩) :
    vars.length ≤ given.length + script.lines.length ∧
      found = Table.ofPairs ((vars.map (·.name)).zip (values vars given script.lines)) ∧
      rest = { script with lines := script.lines.drop (vars.length - given.length) } ∧
      events = surplusWarnings vars given ++ (vars.drop given.length).map question := by
  rcases run_resolve vars given script with ⟨henough, hrun⟩ | ⟨_, _, _, hrun⟩
  · rw [hrun] at h
    cases h
    exact ⟨henough, rfl, rfl, rfl⟩
  · rw [hrun] at h
    cases h

/-- What has happened when the variables get no values. -/
theorem resolve_eq_error {vars : List Variable} {given : List Text} {script rest : Script}
    {failure : Failure} {events : List Event}
    (h : (resolve vars given).run script = ⟨.error failure, rest, events⟩) :
    failure = .endOfInput ∧ ∃ early v, events = early ++ [question v] := by
  rcases run_resolve vars given script with ⟨henough, hrun⟩ | ⟨rest', early, v, hrun⟩
  · rw [hrun] at h
    cases h
  · rw [hrun] at h
    cases h
    exact ⟨rfl, early, v, rfl⟩

end Variable

/-! ### Planning -/

namespace Config

variable {c : Config} {around : Surroundings} {command : Command} {given : List Text}
  {script rest : Script} {events : List Event}

/-- A command has a plan once its variables have values, and it is echoed behind everything that is
asked. -/
theorem prepare_eq_ok_iff {plan : Plan} :
    (c.prepare around command given).run script = ⟨.ok plan, rest, events⟩ ↔
      ∃ found told, (Variable.resolve command.vars given).run script = ⟨.ok found, rest, told⟩ ∧
        c.plan around command found = .ok plan ∧
        events = told ++ if plan.echoes then [.echoed plan.text] else [] := by
  constructor
  · intro h
    obtain ⟨found, mid, told, behind, hresolve, hbehind, rfl⟩ := Act.exists_of_run_bind_eq_ok h
    obtain ⟨plan', mid', before, last, hplan, hlast, rfl⟩ := Act.exists_of_run_bind_eq_ok hbehind
    obtain ⟨hfound, rfl, rfl⟩ := Ending.mk.inj hplan
    refine ⟨found, told, ?_⟩
    cases hechoes : plan'.echoes <;> rw [hechoes] at hlast <;> cases hlast <;>
      exact ⟨hresolve, hfound, by rw [hechoes]; rfl⟩
  · rintro ⟨found, told, hresolve, hplan, rfl⟩
    have hdone : Act.ofExcept (.ok plan) = pure plan := rfl
    rw [prepare, Act.run_bind_of_ok hresolve, hplan, hdone, Act.pure_bind]
    cases plan.echoes <;> rfl

/-- What a plan is made of: the expanded text, and the call of the chosen shell. -/
theorem plan_eq_ok_iff {values : Table Text} {plan : Plan} :
    c.plan around command values = .ok plan ↔
      ∃ text shell, command.expr.expand c.snippets = .ok text ∧
        Shell.choose command.shell c.settings.shell around.environ = .ok shell ∧
        plan = ⟨text, ⟨shell.argv text, around.workdir, around.environ.overlay values⟩,
          c.echoes command⟩ := by
  rw [Config.plan]
  cases command.expr.expand c.snippets with
  | error error => simp
  | ok text =>
      cases Shell.choose command.shell c.settings.shell around.environ with
      | error error => simp
      | ok shell => simp [eq_comm]

end Config

/-! ### Overlaying -/

namespace Table

variable {α : Type} {t pairs : Table α} {name : Text} {value : α}

@[simp] theorem putAll_nil (t : Table α) : putAll t [] = t := rfl

theorem putAll_cons (t : Table α) (name : Text) (value : α) (pairs : Table α) :
    putAll t ((name, value) :: pairs) = putAll (t.put name value) pairs := rfl

/-- Names that are not overlaid keep their values. -/
theorem get?_putAll_of_notMem (h : name ∉ names pairs) :
    (putAll t pairs).get? name = t.get? name := by
  induction pairs generalizing t with
  | nil => rfl
  | cons pair pairs ih =>
      obtain ⟨key, v⟩ := pair
      rw [names_cons, List.mem_cons, not_or] at h
      rw [putAll_cons, ih h.2, get?_put_of_ne t v h.1]

/-- Of different names, each gets the value it is overlaid with. -/
theorem get?_putAll_of_mem (h : (names pairs).Nodup) (hmem : (name, value) ∈ pairs) :
    (putAll t pairs).get? name = some value := by
  induction pairs generalizing t with
  | nil => cases hmem
  | cons pair pairs ih =>
      obtain ⟨key, v⟩ := pair
      rw [names_cons, List.nodup_cons] at h
      rw [putAll_cons]
      rcases List.mem_cons.1 hmem with heq | hmem
      · cases heq
        rw [get?_putAll_of_notMem h.1, get?_put_self]
      · exact ih h.2 hmem

theorem put_of_notMem (h : name ∉ names t) : t.put name value = t ++ [(name, value)] := by
  induction t with
  | nil => rfl
  | cons pair t ih =>
      obtain ⟨key, v⟩ := pair
      rw [names_cons, List.mem_cons, not_or] at h
      rw [put, if_neg (Ne.symm h.1), ih h.2, List.cons_append]

/-- Pairs of different names are the table that is made of them. -/
theorem ofPairs_eq_self (h : (names pairs).Nodup) : ofPairs pairs = pairs := by
  have hall {t : Table α} (hnodup : (names (t ++ pairs)).Nodup) : putAll t pairs = t ++ pairs := by
    induction pairs generalizing t with
    | nil => rw [putAll_nil, List.append_nil]
    | cons pair pairs ih =>
        obtain ⟨key, v⟩ := pair
        have hnew : key ∉ names t := by
          intro hmem
          rw [names, List.map_append, List.map_cons, List.nodup_append] at hnodup
          exact hnodup.2.2 key hmem key List.mem_cons_self rfl
        have hsplit : t ++ (key, v) :: pairs = (t ++ [(key, v)]) ++ pairs := by simp
        rw [putAll_cons, put_of_notMem hnew, hsplit]
        rw [hsplit] at hnodup
        exact ih (List.Nodup.of_cons h) hnodup
  exact hall h

end Table

/-! ### What a command is handed -/

namespace Variable

/-- A typed line stands for itself, and an empty one for the default where there is one. -/
inductive Accepts (v : Variable) : Text → Text → Prop
  | typed {line : Text} (h : line ≠ [] ∨ v.default = none) : Accepts v line line
  | default {value : Text} (h : v.default = some value) : Accepts v [] value

theorem accepts_answerValue (v : Variable) (line : Text) :
    v.Accepts line (answerValue v.default line) := by
  rw [answerValue]
  cases line with
  | cons char rest => exact .typed (.inl (List.cons_ne_nil _ _))
  | nil =>
      cases hdefault : v.default with
      | none => exact .typed (.inr hdefault)
      | some value => exact .default hdefault

/-- Values for variables, of which the first are the given ones as they stand and the others come
from typed lines, in order. -/
structure Supplied (vars : List Variable) (given lines values : List Text) : Prop where
  length : values.length = vars.length
  taken : ∀ i, i < vars.length → i < given.length → values[i]? = given[i]?
  typed : ∀ i v, vars[i]? = some v → given.length ≤ i →
    ∃ line value, lines[i - given.length]? = some line ∧ v.Accepts line value ∧
      values[i]? = some value

variable {vars : List Variable} {given lines : List Text}

theorem supplied_values (h : vars.length ≤ given.length + lines.length) :
    Supplied vars given lines (values vars given lines) where
  length := by
    simp only [values, List.length_append, List.length_take, List.length_zipWith,
      List.length_drop]
    omega
  taken i hi hgiven := by
    have htaken : i < (given.take vars.length).length := by
      rw [List.length_take]
      omega
    rw [values, List.getElem?_append_left htaken, List.getElem?_take_of_lt hi]
  typed i v hv hgiven := by
    have hi : i < vars.length := (List.getElem?_eq_some_iff.1 hv).1
    have hlength : (given.take vars.length).length = given.length := by
      rw [List.length_take]
      omega
    have hline : i - given.length < lines.length := by omega
    have hasked : (vars.drop given.length)[i - given.length]? = some v := by
      rw [List.getElem?_drop, Nat.add_sub_cancel' hgiven, hv]
    refine ⟨lines[i - given.length], _, List.getElem?_eq_getElem hline,
      v.accepts_answerValue _, ?_⟩
    rw [values, List.getElem?_append_right (hlength ▸ hgiven), hlength, List.getElem?_zipWith,
      hasked, List.getElem?_eq_getElem hline]

end Variable

namespace Event

/-- The text of a prompt. -/
def prompt? : Event → Option Text
  | .prompted prompt => some prompt
  | _ => none

/-- The text of a warning. -/
def warning? : Event → Option Text
  | .warned message => some message
  | _ => none

end Event

namespace Variable

theorem prompts_surplusWarnings (vars : List Variable) (given : List Text) :
    (surplusWarnings vars given).filterMap Event.prompt? = [] := by
  unfold surplusWarnings
  split <;> rfl

theorem warnings_surplusWarnings (vars : List Variable) (given : List Text) :
    (surplusWarnings vars given).filterMap Event.warning? =
      if vars.length < given.length then [surplusWarning (given.drop vars.length)] else [] := by
  unfold surplusWarnings
  split <;> rfl

theorem prompts_questions (vars : List Variable) :
    (vars.map question).filterMap Event.prompt? =
      vars.map fun v => promptText v.label v.default := by
  rw [List.filterMap_map]
  exact congrFun (List.filterMap_eq_map (f := fun v => promptText v.label v.default)) vars

theorem warnings_questions (vars : List Variable) :
    (vars.map question).filterMap Event.warning? = [] := by
  rw [List.filterMap_map, List.filterMap_eq_nil_iff]
  exact fun v _ => rfl

end Variable

/-- What a command that has made its call has handed to it, and how it has talked meanwhile. -/
structure Command.Hands (command : Command) (around : Surroundings) (given : List Text)
    (script : Script) (call : Call) (ending : Ending Int) (values : List Text) : Prop where
  supplied : Variable.Supplied command.vars given script.lines values
  env : call.env = around.environ.overlay ((command.vars.map (·.name)).zip values)
  own : ∀ (i : Nat) v, command.vars[i]? = some v →
    Table.get? call.env v.name = values[i]?
  others : ∀ name, (∀ v ∈ command.vars, v.name ≠ name) →
    Table.get? call.env name = Table.get? around.environ name
  prompts : ending.events.filterMap Event.prompt? =
    (command.vars.drop given.length).map fun v => promptText v.label v.default
  warnings : ending.events.filterMap Event.warning? =
    if command.vars.length < given.length then
      [surplusWarning (given.drop command.vars.length)] else []
  lines : ending.script.lines = script.lines.drop (command.vars.length - given.length)

namespace Config

variable {c : Config} {around : Surroundings} {command : Command} {given : List Text}
  {script : Script} {call : Call}

/-- A command that has no plan fails before its call. -/
theorem precedesCall_of_plan_eq_error {values : Table Text} {failure : Failure}
    (h : c.plan around command values = .error failure) :
    failure.precedesCall = true ∧ failure ≠ .endOfInput := by
  rw [Config.plan] at h
  cases hexpand : command.expr.expand c.snippets with
  | error error =>
      rw [hexpand] at h
      cases h
      exact ⟨rfl, Failure.noConfusion⟩
  | ok text =>
      cases hshell : Shell.choose command.shell c.settings.shell around.environ with
      | error error =>
          rw [hexpand, hshell] at h
          cases h
          exact ⟨rfl, Failure.noConfusion⟩
      | ok shell =>
          rw [hexpand, hshell] at h
          cases h

/-- A failure before a call, and what has been said until then: nothing but talk, with a prompt at
the end if that is left without an answer. -/
structure Stops (failure : Failure) (told : List Event) : Prop where
  precedes : failure.precedesCall = true
  talk : ∀ event ∈ told, event.isTalk = true
  prompt : failure = .endOfInput → ∃ prompt, told.getLast? = some (.prompted prompt)

/-- How the run of a command goes: with nothing but talk before a failure, or with talk and then,
with nothing between them, the echo if there is to be one, the call and a record of its status. -/
inductive Performs (c : Config) (around : Surroundings) (command : Command) (given : List Text)
    (script : Script) : Ending Int → Prop
  | stops {failure : Failure} {rest : Script} {told : List Event} (hstops : Stops failure told) :
      Performs c around command given script ⟨.error failure, rest, told⟩
  | launches {found : Table Text} {plan : Plan} {rest : Script} {told : List Event}
      (hresolve : (Variable.resolve command.vars given).run script = ⟨.ok found, rest, told⟩)
      (hplan : c.plan around command found = .ok plan)
      (htold : ∀ event ∈ told, event.isTalk = true) :
      Performs c around command given script
        ⟨command.verdict plan.text script.nextStatus, rest.dropStatus,
          told ++ (if plan.echoes then [.echoed plan.text] else []) ++
            [.called plan.call, .logged (.exited script.nextStatus)]⟩

/-- A command that gets no plan stops there. -/
theorem stops_of_prepare_eq_error {failure : Failure} {rest : Script} {events : List Event}
    (h : (c.prepare around command given).run script = ⟨.error failure, rest, events⟩) :
    Stops failure events := by
  have htalk := (Variable.resolve_talks command.vars given).isTalk_of_mem script
  rcases Act.cases_of_run_bind_eq_error h with hresolve | ⟨found, mid, told, behind, hresolve,
    hbehind, rfl⟩
  · rw [hresolve] at htalk
    obtain ⟨rfl, early, v, rfl⟩ := Variable.resolve_eq_error hresolve
    exact ⟨rfl, htalk, fun _ => ⟨_, List.getLast?_concat⟩⟩
  · rw [hresolve] at htalk
    rcases Act.cases_of_run_bind_eq_error hbehind with hplan | ⟨plan, mid', none, last, hplan,
      hlast, rfl⟩
    · obtain ⟨hfound, -, rfl⟩ := Ending.mk.inj hplan
      obtain ⟨hprecedes, hne⟩ := precedesCall_of_plan_eq_error hfound
      rw [List.append_nil]
      exact ⟨hprecedes, htalk, fun heq => absurd heq hne⟩
    · -- echoing does not fail
      cases hechoes : plan.echoes <;> rw [hechoes] at hlast <;> cases hlast

theorem performs_run (c : Config) (around : Surroundings) (command : Command) (given : List Text)
    (script : Script) :
    c.Performs around command given script ((c.run around command given).run script) := by
  have hstatuses := (prepare_preliminary c around command given).statuses script
  rw [run_eq_prepare_bind]
  cases hprepare : (c.prepare around command given).run script with
  | mk result rest events =>
      cases result with
      | error failure =>
          rw [Act.run_bind_of_error hprepare]
          exact .stops (stops_of_prepare_eq_error hprepare)
      | ok plan =>
          obtain ⟨found, told, hresolve, hplan, rfl⟩ := prepare_eq_ok_iff.1 hprepare
          have htold := (Variable.resolve_talks command.vars given).isTalk_of_mem script
          rw [hprepare] at hstatuses
          rw [hresolve] at htold
          have hnext : rest.nextStatus = script.nextStatus := congrArg (·.headD 0) hstatuses
          rw [Act.run_bind_of_ok hprepare, Act.run_bind_of_ok (Act.run_start plan.call rest), hnext]
          exact .launches hresolve hplan htold

/-- A command that makes its call has values for its variables, and a plan. -/
theorem exists_plan_of_called
    (h : .called call ∈ ((c.run around command given).run script).events) :
    ∃ found plan rest told,
      (Variable.resolve command.vars given).run script = ⟨.ok found, rest, told⟩ ∧
      c.plan around command found = .ok plan ∧ call = plan.call ∧
      (c.run around command given).run script =
        ⟨command.verdict plan.text script.nextStatus, rest.dropStatus,
          told ++ (if plan.echoes then [.echoed plan.text] else []) ++
            [.called plan.call, .logged (.exited script.nextStatus)]⟩ := by
  have hperforms := c.performs_run around command given script
  generalize (c.run around command given).run script = ending at hperforms h
  cases hperforms with
  | stops hstops => exact absurd (hstops.talk _ h) Bool.false_ne_true
  | @launches found plan rest told hresolve hplan htold =>
      refine ⟨found, plan, rest, told, hresolve, hplan, ?_, rfl⟩
      have hnotTold : .called call ∉ told := fun hmem => Bool.false_ne_true (htold _ hmem)
      cases hechoes : plan.echoes <;> simpa [hechoes, hnotTold] using h

/-- A command that has values and a plan makes its call. -/
theorem called_of_plan {found : Table Text} {plan : Plan} {rest : Script} {told : List Event}
    (hresolve : (Variable.resolve command.vars given).run script = ⟨.ok found, rest, told⟩)
    (hplan : c.plan around command found = .ok plan) :
    .called plan.call ∈ ((c.run around command given).run script).events := by
  have hprepare := prepare_eq_ok_iff.2 ⟨found, told, hresolve, hplan, rfl⟩
  rw [run_eq_prepare_bind, Act.run_bind_of_ok hprepare,
    Act.run_bind_of_ok (Act.run_start plan.call rest)]
  exact List.mem_append_right _ List.mem_cons_self

/-- The names of the variables of a command differ. -/
theorem WellFormed.nodup_vars (h : c.WellFormed) {m : Menu} (hm : m ∈ c.menus) {key : Text}
    (he : (key, .command command) ∈ m.entries) : (command.vars.map (·.name)).Nodup := by
  have hwritable : Entry.Writable (.command command) := ((h.menus m hm).entries _ he).2
  rw [Command.vars]
  cases hoptions : command.options with
  | none => exact List.nodup_nil
  | some o => exact (hwritable.2 o hoptions).1

/-- The echo and the call are neither prompts nor warnings. -/
theorem filterMap_launched {α : Type} {f : Event → Option α}
    (hechoed : ∀ text, f (.echoed text) = none) (hcalled : ∀ call, f (.called call) = none)
    (hlogged : ∀ record, f (.logged record) = none) (told : List Event) (plan : Plan)
    (status : Int) :
    (told ++ (if plan.echoes then [Event.echoed plan.text] else []) ++
      [Event.called plan.call, Event.logged (.exited status)]).filterMap f =
        told.filterMap f := by
  cases plan.echoes <;> simp [hechoed, hcalled, hlogged]

theorem exists_hands (hnodup : (command.vars.map (·.name)).Nodup)
    (h : .called call ∈ ((c.run around command given).run script).events) :
    ∃ values, command.Hands around given script call
      ((c.run around command given).run script) values := by
  obtain ⟨found, plan, rest, told, hresolve, hplan, hcall, hending⟩ := exists_plan_of_called h
  obtain ⟨henough, hfound, hrest, htold⟩ := Variable.resolve_eq_ok hresolve
  obtain ⟨text, shell, -, -, rfl⟩ := plan_eq_ok_iff.1 hplan
  have hsupplied := Variable.supplied_values henough
  set values := Variable.values command.vars given script.lines
  have hlength : command.vars.length = values.length := hsupplied.length.symm
  have hnames : Table.names ((command.vars.map (·.name)).zip values) =
      command.vars.map (·.name) :=
    List.map_fst_zip (by rw [List.length_map, hlength])
  have hdistinct : (Table.names ((command.vars.map (·.name)).zip values)).Nodup :=
    hnames.symm ▸ hnodup
  have henv : call.env = around.environ.overlay ((command.vars.map (·.name)).zip values) := by
    rw [hcall, hfound, Table.ofPairs_eq_self hdistinct]
  refine ⟨values, hsupplied, henv, fun i v hv => ?_, fun name hname => ?_, ?_, ?_, ?_⟩
  · obtain ⟨hi, rfl⟩ := List.getElem?_eq_some_iff.1 hv
    have hvalue : values[i]? = some values[i] := List.getElem?_eq_getElem (hlength ▸ hi)
    rw [hvalue, henv]
    refine Table.get?_putAll_of_mem hdistinct (List.mem_iff_getElem?.2 ⟨i, ?_⟩)
    rw [List.getElem?_zip_eq_some, List.getElem?_map, hv, hvalue]
    exact ⟨rfl, rfl⟩
  · rw [henv]
    refine Table.get?_putAll_of_notMem ?_
    rw [hnames, List.mem_map]
    rintro ⟨v, hv, hsame⟩
    exact hname v hv hsame
  · rw [hending, filterMap_launched (fun _ => rfl) (fun _ => rfl) (fun _ => rfl), htold,
      List.filterMap_append, Variable.prompts_surplusWarnings, List.nil_append,
      Variable.prompts_questions]
  · rw [hending, filterMap_launched (fun _ => rfl) (fun _ => rfl) (fun _ => rfl), htold,
      List.filterMap_append, Variable.warnings_questions, List.append_nil,
      Variable.warnings_surplusWarnings]
  · rw [hending, hrest]
    rfl

end Config

namespace Session

variable {s : Session}

end Session

end KeyMenu
