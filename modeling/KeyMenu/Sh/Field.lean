import KeyMenu.Sh.Pattern

/-!
# Fields

An expanded word comes to fields: signs that separate cut what was not quoted, and what was quoted
stays whole (`fields`). White space that separates counts only once and not at the ends; any other
separator ends a field, even an empty one.
-/

namespace KeyMenu.Sh

/-- What a word is expanded to, one after the other. A `blank` and a `separator` may end a field, a
`border` does so without trace, and a `mark` begins one that may stay empty. -/
inductive Item
  | sign (s : Sign)
  | mark
  | blank
  | separator
  | border
  deriving DecidableEq

/-- The signs of white space. -/
def isBlankSign (c : Char) : Bool := c == ' ' || c == '\t' || c == '\n'

namespace Item

/-- A text that stays whole. -/
def whole (isQuoted : Bool) (t : Text) : List Item :=
  (if isQuoted then [.mark] else []) ++ t.map fun c => .sign ⟨c, isQuoted⟩

/-- A text that separators cut. -/
def loose (separators : Text) (t : Text) : List Item := t.map fun c =>
  if !separators.contains c then .sign ⟨c, false⟩
  else if isBlankSign c then .blank
  else .separator

/-- Texts that stay apart. -/
def apart : List (List Item) → List Item
  | [] => []
  | [items] => items
  | items :: more => items ++ .border :: apart more

end Item

/-- The fields of what has been expanded: `begun` is the field that has begun, and `isAfterBlank`
says that a field has just ended in a blank. -/
def fieldsFrom (begun : Option Signs) (isAfterBlank : Bool) : List Item → List Signs
  | [] => begun.toList
  | .sign s :: rest => fieldsFrom (some (begun.getD [] ++ [s])) false rest
  | .mark :: rest => fieldsFrom (some (begun.getD [])) false rest
  | .border :: rest => begun.toList ++ fieldsFrom none false rest
  | .blank :: rest => begun.toList ++ fieldsFrom none (isAfterBlank || begun.isSome) rest
  | .separator :: rest =>
      if begun.isNone && isAfterBlank then fieldsFrom none false rest
      else begun.getD [] :: fieldsFrom none false rest

/-- The fields of what has been expanded. -/
def fields (items : List Item) : List Signs := fieldsFrom none false items

/-- What has been expanded, where it is not cut. -/
def joined (items : List Item) : Signs := items.filterMap fun
  | .sign s => some s
  | .mark => none
  | .blank => some ⟨' ', false⟩
  | .separator => some ⟨' ', false⟩
  | .border => some ⟨' ', true⟩

/-- Two separators in a row enclose an empty field. -/
example : (fields (Item.loose [','] "a,,b".toList)).map Signs.text =
    ["a".toList, [], "b".toList] := by decide

/-- Blanks at the ends count for nothing. -/
example : (fields (Item.loose " \t\n".toList " a  b ".toList)).map Signs.text =
    ["a".toList, "b".toList] := by decide

end KeyMenu.Sh
