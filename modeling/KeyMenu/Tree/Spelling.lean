import KeyMenu.Tree.Token

/-!
# Writing strings

`Text.spelling` writes a text as a string of the configuration language. A text without
backslashes is written between quotes, with its double quotes escaped. Any other is written as a
protected string, under the first marker whose closing does not occur in it: no marker at all,
then `m1`, `m2` and so on.
-/

namespace KeyMenu.Text

/-- The markers in the order in which they are tried. -/
def marker (n : Nat) : Text := if n = 0 then [] else 'm' :: ofNat n

/-- The first marker whose closing does not occur in the text. Each double quote of the text rules
out one marker at most. -/
def freeMarker (t : Text) : Text :=
  let candidates := (List.range (t.length + 1)).map marker
  (candidates.find? fun m => !occurs (closingMark m) t).getD (marker (t.length + 1))

/-- Double quotes with a backslash in front. -/
def escapeQuotes (t : Text) : Text := t.flatMap fun c => if c = '"' then ['\\', '"'] else [c]

/-- A string of the configuration language whose value is the text. -/
def spelling (t : Text) : Text :=
  if '\\' ∈ t then
    let m := freeMarker t
    '!' :: m ++ '"' :: t ++ closingMark m
  else '"' :: escapeQuotes t ++ ['"']

end KeyMenu.Text
