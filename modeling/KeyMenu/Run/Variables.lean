import KeyMenu.Config.Basic
import KeyMenu.Run.Act

/-!
# Values for variables

The variables of a command take the given values in order, each as it stands; for the others a line
is asked for, and an empty line means the default where there is one. Values that no variable takes
are named in a warning, before anything is asked.
-/

namespace KeyMenu

/-- The text that asks for a line: the label, and the default in brackets. -/
def promptText (label : Text) (default : Option Text) : Text :=
  match default with
  | none => label ++ ": ".toList
  | some value => label ++ " [".toList ++ value ++ "]: ".toList

/-- The value of a typed line. -/
def answerValue (default : Option Text) (answer : Text) : Text :=
  if answer.isEmpty then default.getD answer else answer

/-- The warning about values that no variable takes. -/
def surplusWarning (surplus : List Text) : Text :=
  "Ignoring extra arguments: ".toList ++ Text.joinWith [' '] surplus

namespace Variable

/-- What the question for a variable is called. -/
def label (v : Variable) : Text := "Value for ".toList ++ v.name

/-- Asks for the value of a variable. -/
def ask (v : Variable) : Act Text := do
  Act.emit (.prompted (promptText v.label v.default))
  let answer ← Act.readLine
  return answerValue v.default answer

/-- Values for variables, from the given ones as far as they go. -/
def collect : List Variable → List Text → Act (List (Text × Text))
  | [], _ => return []
  | v :: vs, value :: given => do
      let others ← collect vs given
      return (v.name, value) :: others
  | v :: vs, [] => do
      let value ← v.ask
      let others ← collect vs []
      return (v.name, value) :: others

/-- The values of variables by name. -/
def resolve (vars : List Variable) (given : List Text) : Act (Table Text) := do
  if vars.length < given.length then
    Act.emit (.warned (surplusWarning (given.drop vars.length)))
  let pairs ← collect vars given
  return Table.ofPairs pairs

end Variable

end KeyMenu
