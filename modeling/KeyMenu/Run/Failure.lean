import KeyMenu.Expr.Expand
import KeyMenu.Navigation.Place
import KeyMenu.Text.Words
import KeyMenu.Tree.Grammar

/-!
# Failures

What ends a run before its time. Most failures are told to the person at the terminal
(`Failure.message?`); the end of input and an interruption end the run in silence, and the others
do not arise from a configuration that has been checked.
-/

namespace KeyMenu

/-- What ends a run before its time. -/
inductive Failure
  | unmatched (keys : UnmatchedKeys)
  | exited (status : Int) (command : Text)
  | unsplittable (error : Text.UnsplittableText)
  | noKeys
  | malformedShell (error : ParseError)
  | expansion (error : ExpansionError)
  | endOfInput
  | interrupted
  | missingMenu (name : Text)
  | notACommand (menu : Text)
  deriving DecidableEq

namespace Failure

/-- The message about a command that did not succeed. -/
def exitMessage (status : Int) (command : Text) : Text :=
  "command exited with status ".toList ++ Text.ofInt status ++ ": ".toList ++ command

/-- The message about keys that are missing. -/
def noKeysMessage : Text := "No keys given and no interactive terminal available".toList

/-- What is told about a failure. -/
def message? : Failure → Option Text
  | .unmatched error => some error.message
  | .exited status command => some (exitMessage status command)
  | .unsplittable error => some error.message
  | .noKeys => some noKeysMessage
  | .malformedShell (.grammar error) => some error.message
  | .malformedShell .strayBlank => none
  | .expansion error => some error.message
  | .endOfInput => none
  | .interrupted => none
  | .missingMenu _ => none
  | .notACommand _ => none

end Failure

end KeyMenu
