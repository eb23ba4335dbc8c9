import KeyMenu.Text.Basic

/-!
# Shells

A shell is a program with arguments; it runs a command by getting the command text as one more
argument.
-/

namespace KeyMenu

/-- A program and its arguments. -/
structure Shell where
  program : Text
  args : List Text
  deriving DecidableEq

namespace Shell

/-- Program and arguments. -/
def words (s : Shell) : List Text := s.program :: s.args

/-- The arguments with which a command is started. -/
def argv (s : Shell) (command : Text) : List Text := s.words ++ [command]

/-- The words with spaces between them. -/
def toText (s : Shell) : Text := Text.joinWith [' '] s.words

/-- The shell that runs commands where nothing else is said. -/
def standard : Shell := ⟨"bash".toList, ["-euo".toList, "pipefail".toList, "-c".toList]⟩

end Shell

end KeyMenu
