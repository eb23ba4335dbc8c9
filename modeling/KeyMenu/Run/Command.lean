import KeyMenu.Run.Variables
import KeyMenu.Shell.Choice

/-!
# Running a command

A `Plan` is what a command comes to once its variables have values: the command text with all
snippets expanded, the call of the shell that runs it, and whether the text is echoed.
`Config.run` finds the values, makes the plan and starts the process.
-/

namespace KeyMenu

/-- Where commands run: their environment, and their working directory unless it is the present
one. -/
structure Surroundings where
  environ : Environment
  workdir : Option Path
  deriving DecidableEq

/-- What a command comes to. -/
structure Plan where
  text : Text
  call : Call
  echoes : Bool
  deriving DecidableEq

namespace Config

/-- The command is echoed: its mark flips what the file says. -/
def echoes (c : Config) (command : Command) : Bool := c.settings.echo != command.togglesEcho

/-- The plan of a command, given the values of its variables. -/
def plan (c : Config) (around : Surroundings) (command : Command) (values : Table Text) :
    Except Failure Plan :=
  match command.expr.expand c.snippets with
  | .error error => .error (.expansion error)
  | .ok text =>
      match Shell.choose command.shell c.settings.shell around.environ with
      | .error error => .error (.malformedShell error)
      | .ok shell =>
          .ok ⟨text, ⟨shell.argv text, around.workdir, around.environ.overlay values⟩,
            c.echoes command⟩

/-- Runs a command with the given values for its variables, and gives its exit status. A status
other than zero is a failure, unless the command may fail. -/
def run (c : Config) (around : Surroundings) (command : Command) (given : List Text) :
    Act Int := do
  let values ← Variable.resolve command.vars given
  let plan ← Act.ofExcept (c.plan around command values)
  if plan.echoes then
    Act.emit (.echoed plan.text)
  let status ← Act.start plan.call
  Act.emit (.logged (.exited status))
  if status ≠ 0 ∧ command.ignoresResult = false then
    Act.fail (.exited status plan.text)
  else
    return status

/-- Runs what a key leads to. A sub-menu is nothing to run, and has no variables that could take
the given values. -/
def runEntry (c : Config) (around : Surroundings) (given : List Text) : Entry → Act Int
  | .command command => c.run around command given
  | .submenu name => do
      let _ ← Variable.resolve [] given
      Act.fail (.notACommand name)

end Config

end KeyMenu
