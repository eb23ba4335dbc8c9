import KeyMenu.Text.Basic

/-!
# Paths

A path is a root, or none, and the names below it. Doubled slashes, a slash at the end and the
name `.` say nothing and are dropped, whereas `..` is kept, because what it leads to depends on the
files. Exactly two slashes at the beginning are a root of their own.
-/

namespace KeyMenu

/-- Where a path begins. -/
inductive PathRoot
  | none
  | single
  | double
  deriving DecidableEq

/-- A path: its beginning and the names below. -/
structure Path where
  root : PathRoot
  names : List Text
  deriving DecidableEq

/-- The slashes of a root. -/
def PathRoot.text : PathRoot → Text
  | .none => []
  | .single => ['/']
  | .double => ['/', '/']

/-- The pieces of a text between slashes. -/
def Text.slashPieces : Text → List Text
  | [] => [[]]
  | c :: rest =>
      if c = '/' then [] :: slashPieces rest
      else
        match slashPieces rest with
        | [] => [[c]]
        | piece :: more => (c :: piece) :: more

namespace Path

/-- The name that stands for the same directory. -/
def here : Text := ['.']

/-- The name that stands for the directory above. -/
def above : Text := ['.', '.']

/-- The root that a text begins with. -/
def rootOf : Text → PathRoot
  | '/' :: '/' :: '/' :: _ => .single
  | '/' :: '/' :: _ => .double
  | '/' :: _ => .single
  | _ => .none

/-- Reads a path. -/
def ofText (t : Text) : Path :=
  ⟨rootOf t, t.slashPieces.filter fun piece => !piece.isEmpty && piece != here⟩

/-- The text of a path; the empty path is written as a dot. -/
def toText (p : Path) : Text :=
  if p.root = .none ∧ p.names = [] then here
  else p.root.text ++ Text.joinWith ['/'] p.names

/-- The path does not depend on a working directory. -/
def isAbsolute (p : Path) : Bool := p.root ≠ .none

/-- The second path as seen from the first. -/
def join (base p : Path) : Path :=
  if p.isAbsolute then p else ⟨base.root, base.names ++ p.names⟩

/-- The path without its last name. -/
def parent (p : Path) : Path := { p with names := p.names.dropLast }

/-- A single name below a path. -/
def child (p : Path) (name : Text) : Path := { p with names := p.names ++ [name] }

@[simp] theorem parent_child (p : Path) (name : Text) : (p.child name).parent = p := by
  simp [child, parent]

/-- Slashes are counted at the beginning only. -/
example : (ofText "//a//./b/".toList).toText = "//a/b".toList := by decide

example : (ofText []).toText = ".".toList := by decide

end Path

end KeyMenu
