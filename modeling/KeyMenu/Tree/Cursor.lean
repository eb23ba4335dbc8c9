import KeyMenu.Text.Blank
import KeyMenu.Tree.Basic

/-!
# Places in a text and what was expected there

* `Cursor`: the text still unread, and how far into the whole text it begins;
* `Expectation`: a place where something was looked for and not found;
* `SyntaxError`: the furthest such place, everything that was looked for there, and the line it
  lies on.
-/

namespace KeyMenu

/-- A place in a text: what is still to be read, the number of code points before it, and its line
and column. -/
structure Cursor where
  rest : Text
  offset : Nat
  pos : Position
  deriving DecidableEq

namespace Cursor

/-- The beginning of a text. -/
def start (t : Text) : Cursor := ⟨t, 0, .start⟩

/-- The place after `taken`, which stands at the cursor. -/
def past (taken : Text) (c : Cursor) : Cursor :=
  ⟨c.rest.drop taken.length, c.offset + taken.length, c.pos.afterText taken⟩

@[simp] theorem past_nil (c : Cursor) : c.past [] = c := rfl

theorem past_append (s t : Text) (c : Cursor) : c.past (s ++ t) = (c.past s).past t := by
  simp [past, Nat.add_assoc]

theorem rest_past {taken rest : Text} {c : Cursor} (h : c.rest = taken ++ rest) :
    (c.past taken).rest = rest := by
  simp [past, h]

theorem length_rest_past_le (taken : Text) (c : Cursor) :
    (c.past taken).rest.length ≤ c.rest.length := by
  simp [past]

end Cursor

/-- Something that was looked for at a place and not found there. -/
structure Expectation where
  what : Text
  offset : Nat
  pos : Position
  deriving DecidableEq

/-- `what` is looked for at the cursor. -/
def Cursor.expecting (c : Cursor) (what : Text) : Expectation := ⟨what, c.offset, c.pos⟩

namespace Expectation

/-- The furthest offset at which anything was looked for. -/
def furthest (notes : List Expectation) : Nat := notes.foldl (fun n e => max n e.offset) 0

/-- The expectations at the furthest offset. -/
def atFurthest (notes : List Expectation) : List Expectation :=
  notes.filter (·.offset == furthest notes)

/-- What was looked for at the furthest offset, in code point order and without repetitions. -/
def wanted (notes : List Expectation) : List Text :=
  match Text.sortedSet ((atFurthest notes).map (·.what)) with
  | [] => ["end of input".toList]
  | several => several

/-- The position of the furthest offset. -/
def furthestPos (notes : List Expectation) : Position :=
  match atFurthest notes with
  | [] => .start
  | e :: _ => e.pos

end Expectation

/-- A text does not follow the grammar: where reading stopped, what could have stood there, the
line that is shown for it, and the name of the file if there is one. -/
structure SyntaxError where
  pos : Position
  expected : List Text
  sourceLine : Text
  path : Option Text
  deriving DecidableEq

namespace SyntaxError

/-- The error that a failed reading of `text` reports. The line shown is found by cutting the text
at every line break, while `pos` counts LF alone. -/
def ofNotes (text : Text) (notes : List Expectation) : SyntaxError :=
  let pos := Expectation.furthestPos notes
  { pos
    expected := Expectation.wanted notes
    sourceLine := (Text.lines text)[pos.line - 1]?.getD []
    path := none }

/-- The same error, found in the named file. -/
def withPath (e : SyntaxError) (path : Text) : SyntaxError := { e with path := some path }

/-- A single expectation as it stands, several as a choice. -/
def wording : List Text → Text
  | [one] => one
  | several => "one of ".toList ++ Text.joinWith [',', ' '] several

/-- The message: place, expectations, and the line with a caret under the place. -/
def message (e : SyntaxError) : Text :=
  let file := match e.path with
    | some (c :: name) => c :: name ++ [':']
    | _ => []
  let shown :=
    if e.sourceLine.isEmpty then []
    else
      ['\n', ' ', ' '] ++ e.sourceLine ++ ['\n', ' ', ' '] ++
        List.replicate (e.pos.column - 1) ' ' ++ ['^']
  file ++ e.pos.toText ++ ": syntax error, expected ".toList ++ wording e.expected ++ shown

end SyntaxError

end KeyMenu
