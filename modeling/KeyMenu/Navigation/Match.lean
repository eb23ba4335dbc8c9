import KeyMenu.Config.Basic

/-!
# Matching typed text against keys

Typed text either begins with a key of the menu, or could still become one, or neither. Where no
key begins another, at most one key can begin the text, so that the order of the entries decides
nothing (`Menu.matchTyped`).
-/

namespace KeyMenu

/-- The number of code points with which both texts begin. -/
def sharedLength : Text → Text → Nat
  | a :: s, b :: t => if a = b then sharedLength s t + 1 else 0
  | _, _ => 0

@[simp] theorem sharedLength_nil_left (t : Text) : sharedLength [] t = 0 := by
  cases t <;> rfl

@[simp] theorem sharedLength_nil_right (s : Text) : sharedLength s [] = 0 := by
  cases s <;> rfl

/-- How typed text stands to the keys of a menu: a key begins it, or it begins some keys, or the
longest part that it shares with the beginning of a key has the given length. -/
inductive KeyMatch
  | hit (key : Text) (entry : Entry)
  | pending (candidates : List Text)
  | miss (shared : Nat)
  deriving DecidableEq

/-- The length of the longest part that typed text shares with the beginning of a key. -/
def longestShared (keys : List Text) (typed : Text) : Nat :=
  (keys.map (sharedLength · typed)).foldl max 0

/-- Matches typed text. The first key that begins it counts; without one, the candidates are the
keys that it begins, in the order of the menu. -/
def Menu.matchTyped (m : Menu) (typed : Text) : KeyMatch :=
  match m.entries.find? fun (key, _) => key.isPrefixOf typed with
  | some (key, entry) => .hit key entry
  | none =>
      match m.keys.filter typed.isPrefixOf with
      | [] => .miss (longestShared m.keys typed)
      | candidates => .pending candidates

end KeyMenu
