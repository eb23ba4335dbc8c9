import KeyMenu.Text.Basic

/-!
# Notices

A notice is a line about what goes wrong, for the person at the terminal. It begins with a mark,
which a terminal shows in colour.
-/

namespace KeyMenu

/-- How bad it is. -/
inductive Severity
  | warning
  | error
  deriving DecidableEq

namespace Severity

/-- The mark of a notice. -/
def mark : Severity → Text
  | .warning => "[!]".toList
  | .error => "[ERROR]".toList

/-- The control sequence that begins the colour of a mark. -/
def colour : Severity → Text
  | .warning => "\x1b[1;33m".toList
  | .error => "\x1b[0;31m".toList

end Severity

/-- The control sequence that ends a colour. -/
def plainColour : Text := "\x1b[0m".toList

/-- The line of a notice, for a terminal or for any other receiver. -/
def notice (severity : Severity) (onTerminal : Bool) (message : Text) : Text :=
  let mark := if onTerminal then severity.colour ++ severity.mark ++ plainColour else severity.mark
  mark ++ [' '] ++ message ++ ['\n']

end KeyMenu
