import KeyMenu.Environment
import KeyMenu.Tree.Grammar

/-!
# Which shell runs a command

The first of these that is there: the shell that the command asks for, the shell of the file, the
shell that the environment names, and the standard shell. Only the third can be malformed, and then
only when it is needed.
-/

namespace KeyMenu

/-- The syntax error that says where the text came from. -/
def ParseError.withPath (source : Text) : ParseError → ParseError
  | .grammar e => .grammar (e.withPath source)
  | .strayBlank => .strayBlank

namespace Shell

/-- The shell that an environment names, or the standard shell. -/
def ofEnvironment (environ : Environment) : Except ParseError Shell :=
  match environ.filled? Environment.shellName with
  | none => .ok standard
  | some spelled =>
      match Shell.parse spelled with
      | .ok shell => .ok shell
      | .error e => .error (e.withPath Environment.shellName)

/-- The shell for a command. -/
def choose (command file : Option Shell) (environ : Environment) : Except ParseError Shell :=
  match command, file with
  | some shell, _ => .ok shell
  | none, some shell => .ok shell
  | none, none => ofEnvironment environ

theorem choose_of_command (shell : Shell) (file : Option Shell) (environ : Environment) :
    choose (some shell) file environ = .ok shell := rfl

theorem choose_of_file (shell : Shell) (environ : Environment) :
    choose none (some shell) environ = .ok shell := rfl

end Shell

end KeyMenu
