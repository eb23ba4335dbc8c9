import KeyMenu.Display.View
import KeyMenu.Environment
import KeyMenu.Log.Record
import KeyMenu.Run.Failure

/-!
# Acts

Running a command asks for lines, starts a process and shows texts. An `Act` says what it does: it
takes the answers still to come (`Script`), and gives its result, the answers that are left, and
what happened (`Event`), in order. Where one act follows another, their events follow one another
too, and a failure ends the whole (`Act.run_bind_of_ok`, `Act.run_bind_of_error`).
-/

namespace KeyMenu

/-- The start of a process: its arguments, the program first, its working directory unless it is
the present one, and its environment. -/
structure Call where
  argv : List Text
  cwd : Option Path
  env : Environment
  deriving DecidableEq

/-- What can be seen of a run. -/
inductive Event
  | shown (view : View)
  | prompted (prompt : Text)
  | warned (message : Text)
  | echoed (command : Text)
  | called (call : Call)
  | logged (record : LogRecord)
  deriving DecidableEq

/-- The answers to come: lines typed at prompts, and exit statuses of processes. -/
structure Script where
  lines : List Text
  statuses : List Int
  deriving DecidableEq

/-- How an act ends: with a result or a failure, with some answers left, after some events. -/
structure Ending (α : Type) where
  result : Except Failure α
  script : Script
  events : List Event

/-- Something that is done with the answers to come. -/
@[ext] structure Act (α : Type) where
  run : Script → Ending α

namespace Act

variable {α β γ : Type}

/-- Gives a result and does nothing. -/
def done (a : α) : Act α := ⟨fun script => ⟨.ok a, script, []⟩⟩

/-- Gives a result that is there, or fails as it failed. -/
def ofExcept (result : Except Failure α) : Act α := ⟨fun script => ⟨result, script, []⟩⟩

/-- Fails. -/
def fail (failure : Failure) : Act α := ofExcept (.error failure)

/-- Makes one event happen. -/
def emit (event : Event) : Act Unit := ⟨fun script => ⟨.ok (), script, [event]⟩⟩

/-- The next typed line. -/
def readLine : Act Text where
  run script :=
    match script.lines with
    | [] => ⟨.error .endOfInput, script, []⟩
    | line :: lines => ⟨.ok line, { script with lines := lines }, []⟩

/-- Starts a process and waits for it; processes of which nothing else is said succeed. -/
def start (call : Call) : Act Int where
  run script :=
    match script.statuses with
    | [] => ⟨.ok 0, script, [.called call]⟩
    | status :: statuses => ⟨.ok status, { script with statuses := statuses }, [.called call]⟩

/-- One act after another. -/
def andThen (x : Act α) (f : α → Act β) : Act β where
  run script :=
    match x.run script with
    | ⟨.error failure, rest, events⟩ => ⟨.error failure, rest, events⟩
    | ⟨.ok a, rest, events⟩ =>
        let last := (f a).run rest
        { last with events := events ++ last.events }

instance : Monad Act where
  pure := done
  bind := andThen

@[simp] theorem run_pure (a : α) (script : Script) :
    (pure a : Act α).run script = ⟨.ok a, script, []⟩ := rfl

theorem run_bind (x : Act α) (f : α → Act β) (script : Script) :
    (x >>= f).run script = (andThen x f).run script := rfl

/-- After a success the second act goes on with what is left. -/
theorem run_bind_of_ok {x : Act α} {f : α → Act β} {script rest : Script} {a : α}
    {events : List Event} (h : x.run script = ⟨.ok a, rest, events⟩) :
    (x >>= f).run script =
      { (f a).run rest with events := events ++ ((f a).run rest).events } := by
  simp only [run_bind, andThen, h]

/-- After a failure nothing more happens. -/
theorem run_bind_of_error {x : Act α} {f : α → Act β} {script rest : Script} {failure : Failure}
    {events : List Event} (h : x.run script = ⟨.error failure, rest, events⟩) :
    (x >>= f).run script = ⟨.error failure, rest, events⟩ := by
  simp only [run_bind, andThen, h]

@[simp] theorem pure_bind (a : α) (f : α → Act β) : (pure a : Act α) >>= f = f a := by
  ext script : 2
  rw [run_bind_of_ok (run_pure a script)]
  simp

/-- Acts that follow one another can be grouped in either way. -/
theorem bind_assoc (x : Act α) (f : α → Act β) (g : β → Act γ) :
    x >>= f >>= g = x >>= fun a => f a >>= g := by
  ext script : 2
  simp only [run_bind, andThen]
  cases h : x.run script with
  | mk result rest events =>
      cases result with
      | error failure => rfl
      | ok a =>
          simp only
          cases h' : (f a).run rest with
          | mk result' rest' events' =>
              cases result' with
              | error failure => rfl
              | ok b => simp [List.append_assoc]

end Act

end KeyMenu
