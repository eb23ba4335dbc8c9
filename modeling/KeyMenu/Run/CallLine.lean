import KeyMenu.Run.Act
import KeyMenu.Text.Enclosed

/-!
# Calls as lines

The start of a process can be written as a line for a shell, which then does the same: it sets the
variables that differ from those it has, and goes to the working directory in a shell of its own.
-/

namespace KeyMenu

namespace Call

/-- The variables of a call that an environment lacks or has with other values. -/
def ownVariables (around : Environment) (call : Call) : Table Text :=
  call.env.filter fun (name, value) => Table.get? around name != some value

/-- The words of a call: where variables have to be set, a program that sets them comes first. -/
def words (around : Environment) (call : Call) : List Text :=
  match call.ownVariables around with
  | [] => call.argv
  | own => "env".toList :: own.map (fun (name, value) => name ++ '=' :: value) ++ call.argv

/-- The line of a call, for a shell with the given environment. -/
def line (around : Environment) (call : Call) : Text :=
  let command := Text.line (call.words around)
  match call.cwd with
  | none => command
  | some directory =>
      "(cd -- ".toList ++ directory.toText.enclosed ++ " && ".toList ++ command ++ [')']

/-- In the present directory, the line splits into the words of the call. -/
theorem words_line (around : Environment) {call : Call} (h : call.cwd = none) :
    Text.words (call.line around) = .ok (call.words around) := by
  simp only [line, h, Text.words_line]

end Call

end KeyMenu
