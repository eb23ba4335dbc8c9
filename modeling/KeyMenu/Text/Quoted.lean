import KeyMenu.Text.Printable

/-!
# Quoted texts in messages

`Text.quoted` shows a piece of input inside a message: between quotes, with everything escaped
that could not be told apart on a screen. `Text.quotedList` shows a list of them.
-/

namespace KeyMenu.Text

/-- A number in lower-case hexadecimal digits, zeros in front up to `width` places. -/
def hexadecimal (width n : Nat) : Text :=
  let digits := Nat.toDigits 16 n
  List.replicate (width - digits.length) '0' ++ digits

/-- Single quotes enclose a text unless it holds a single quote and no double quote. -/
def enclosingQuote (t : Text) : Char :=
  if '\x27' ∈ t ∧ '"' ∉ t then '"' else '\x27'

/-- One code point between the given quotes: backslashes and that quote get a backslash, and
unprintable code points become a letter and their number. -/
def escapedChar (quote c : Char) : Text :=
  if c = quote || c = '\\' then ['\\', c]
  else if c = '\n' then ['\\', 'n']
  else if c = '\r' then ['\\', 'r']
  else if c = '\t' then ['\\', 't']
  else if isPrintable c then [c]
  else if c.toNat < 0x100 then '\\' :: 'x' :: hexadecimal 2 c.toNat
  else if c.toNat < 0x10000 then '\\' :: 'u' :: hexadecimal 4 c.toNat
  else '\\' :: 'U' :: hexadecimal 8 c.toNat

/-- The text between quotes, escaped. -/
def quoted (t : Text) : Text :=
  let quote := enclosingQuote t
  quote :: t.flatMap (escapedChar quote) ++ [quote]

/-- Quoted texts in brackets, with commas between them. -/
def quotedList (texts : List Text) : Text :=
  '[' :: joinWith [',', ' '] (texts.map quoted) ++ [']']

/-- Plain letters are shown between single quotes as they stand. -/
example : quoted ['a', 'b'] = ['\x27', 'a', 'b', '\x27'] := by decide

/-- A text with a single quote and no double quote is shown between double quotes. -/
example : quoted ['\x27'] = ['"', '\x27', '"'] := by decide

/-- The escape control is shown by its number. -/
example : quoted ['\x1b'] = ['\x27', '\\', 'x', '1', 'b', '\x27'] := by decide

end KeyMenu.Text
