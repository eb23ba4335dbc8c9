import KeyMenu.Text.Basic

/-!
# Keys that hide other keys

A key that begins with another key of its menu can never be typed: the shorter one is taken first.
`keyConflicts` lists such pairs. In code point order all extensions of a key follow it directly,
so that one pass over the sorted keys finds them.
-/

namespace KeyMenu

/-- In a list in code point order, the pairs of a text and a later extension of it. -/
def extensionPairs : List Text → List (Text × Text)
  | [] => []
  | short :: later =>
      (later.takeWhile short.isPrefixOf).map (short, ·) ++ extensionPairs later

@[simp] theorem extensionPairs_nil : extensionPairs [] = [] := rfl

theorem extensionPairs_cons (short : Text) (later : List Text) :
    extensionPairs (short :: later) =
      (later.takeWhile short.isPrefixOf).map (short, ·) ++ extensionPairs later := rfl

/-- The pairs of keys of which the first begins the second. -/
def keyConflicts (keys : List Text) : List (Text × Text) := extensionPairs (Text.sorted keys)

end KeyMenu
