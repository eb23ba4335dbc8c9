import KeyMenu.Sh.Digits
import KeyMenu.Sh.Octet

/-!
# Quoting for shells

The ways to write a text so that a shell reads it back as one word: behind backslashes, between
single quotes, or between quotes after a dollar sign, where signs that are hard to write have names.
-/

namespace KeyMenu.Sh

/-- A sign that is hard to write. -/
def isHard (c : Char) : Bool := c.toNat < 0x20 || c.toNat = 0x7f

/-- A text between single quotes after a dollar sign. -/
def dollarQuote (t : Text) : Text :=
  "$\x27".toList ++ t.flatMap sign ++ ['\x27']
where
  /-- One sign of it. -/
  sign (c : Char) : Text :=
    match c with
    | '\x07' => "\\a".toList
    | '\x08' => "\\b".toList
    | '\x0b' => "\\v".toList
    | '\x0c' => "\\f".toList
    | '\n' => "\\n".toList
    | '\r' => "\\r".toList
    | '\t' => "\\t".toList
    | '\x1b' => "\\E".toList
    | '\\' => "\\\\".toList
    | '\x27' => "\\\x27".toList
    | c => if isHard c || 0x80 ≤ c.toNat then
        let digits := inBase 8 c.toNat
        '\\' :: List.replicate (3 - digits.length) '0' ++ digits
      else [c]

/-- A text between single quotes. -/
def singleQuote (t : Text) : Text :=
  '\x27' :: t.flatMap (fun c => if c = '\x27' then "\x27\\\x27\x27".toList else [c]) ++ ['\x27']

/-- The signs that mean something to a shell. -/
def meaningful : Text := " \t\n\x27\"\\|&;()<>!\x7b\x7d*[?]^$\x60,".toList

/-- A text whose signs that mean something stand behind backslashes. -/
def backslashQuote (t : Text) : Text :=
  if t.isEmpty then "\x27\x27".toList
  else if t.any isHard then dollarQuote t
  else
    (t.zipIdx).flatMap fun (c, n) =>
      let isSpecial := meaningful.contains c || (c = '#' && n = 0) || (c = '~' && n = 0)
      if isSpecial then ['\\', c] else [c]

/-- A text in quotes as needed: one that means nothing stands as it is. -/
def plainQuote (t : Text) : Text :=
  let isSafe (c : Char) : Bool :=
    c.isAlphanum || "_@%+=:,./-^~".toList.contains c
  if !t.isEmpty && t.all isSafe && t.head? ≠ some '~' then t
  else if t.any isHard then dollarQuote t
  else singleQuote t

/-- A text between double quotes, as declarations are written. -/
def doubleQuote (t : Text) : Text :=
  if t.any isHard then dollarQuote t
  else '"' :: t.flatMap (fun c => if "$\x60\"\\".toList.contains c then ['\\', c] else [c]) ++ ['"']

end KeyMenu.Sh
