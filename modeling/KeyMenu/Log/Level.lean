import KeyMenu.Text.Blank
import KeyMenu.Text.Numeral

/-!
# Log levels

A level is a number; the more serious an event, the higher. Levels are spelled by name, in either
case, or by decimal digits of any script (`Level.ofText`); flags on the command line name two of
them by counting (`Level.ofVerbosity?`).
-/

namespace KeyMenu

/-- A log level. -/
abbrev Level := Int

namespace Level

/-- The level of warnings, which holds where nothing else is said. -/
def warning : Level := 30

/-- The level of information. -/
def info : Level := 20

/-- The level at which everything is told. -/
def debug : Level := 10

/-- The names of levels. -/
def named : List (Text × Level) :=
  [("CRITICAL".toList, 50), ("FATAL".toList, 50), ("ERROR".toList, 40), ("WARNING".toList, warning),
    ("WARN".toList, warning), ("INFO".toList, info), ("DEBUG".toList, debug),
    ("NOTSET".toList, 0)]

/-- The capital of a letter, as far as names of levels are concerned: two letters beyond the basic
ones have a capital among them, the dotless i and the long s. -/
def capital (c : Char) : Char :=
  if c = '\u0131' then 'I' else if c = '\u017f' then 'S' else c.toUpper

/-- Numbers of more digits are refused. -/
def maxDigits : Nat := 4300

/-- What a text says about the level. A text of digits that spell no number, or too long a one, is
malformed; any other text that is no name of a level says nothing. -/
inductive Reading
  | level (n : Level)
  | unknown
  | malformed
  deriving DecidableEq

/-- Reads a level; white space around it does not count. -/
def ofText (t : Text) : Reading :=
  let word := t.strip.map capital
  if !word.isEmpty && word.all isDigitLike then
    match Text.numeral? word with
    | some n => if word.length ≤ maxDigits then .level n else .malformed
    | none => .malformed
  else
    match named.find? (·.1 == word) with
    | some (_, n) => .level n
    | none => .unknown

/-- The level that a number of verbosity flags asks for: none, information or everything. -/
def ofVerbosity? (count : Int) : Option Level :=
  if count ≤ 0 then none else if count = 1 then some info else some debug

/-- Events of level `event` are told where `level` has been set; the number zero sets nothing, so
that the level of warnings holds. -/
def admits (level event : Level) : Bool :=
  (if level = 0 then warning else level) ≤ event

end Level

end KeyMenu
