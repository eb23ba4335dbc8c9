import KeyMenu.Run.Failure
import KeyMenu.Text.Printable

/-!
# Keys of a keyboard

At a menu only keys that type something visible count, besides the key that takes back a code point
and the two that end the session. All others are passed over.
-/

namespace KeyMenu

/-- What is pressed: a code point is typed, or a code point is taken back, or the session is
interrupted, or the end of input is given, or any other key. -/
inductive KeyPress
  | char (c : Char)
  | backspace
  | interrupt
  | endOfInput
  | other
  deriving DecidableEq

namespace KeyPress

/-- The text that the first key that counts gives. -/
def read : List KeyPress → Except Failure Text
  | [] => .error .endOfInput
  | .char c :: rest => if isPrintable c then .ok [c] else read rest
  | .backspace :: _ => .ok ['\x7f']
  | .interrupt :: _ => .error .interrupted
  | .endOfInput :: _ => .error .endOfInput
  | .other :: rest => read rest

end KeyPress

end KeyMenu
