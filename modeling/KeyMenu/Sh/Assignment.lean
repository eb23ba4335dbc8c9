import KeyMenu.Sh.State

/-!
# Assignments

A word that gives a variable a value (`assignment?`). A command begins with its assignments; the
variables that are given to a command alone get their values back after it (`State.giveBack`).
-/

namespace KeyMenu.Sh

/-- A word that gives a variable a value, or adds to the value that it has; a subscript says which
of its values is meant. -/
structure Assignment where
  name : Text
  subscript : Option Word
  adds : Bool
  value : Word

/-- The equals sign of an assignment, or the signs that add, and the value after it. -/
def assignedValue? (dialect : Dialect) : Word → Option (Bool × Word)
  | .literal false ['='] :: rest => some (false, rest)
  | .literal false ['+'] :: .literal false ['='] :: rest =>
      if dialect = .bash then some (true, rest) else none
  | _ => none

/-- The subscript up to the bracket that closes, and what follows it. -/
def subscriptWord? : Word → Option (Word × Word)
  | [] => none
  | p :: rest =>
      if p = .literal false [']'] then some ([], rest)
      else (subscriptWord? rest).map fun (key, after) => (p :: key, after)

/-- Reads an assignment, whatever its name. -/
def assignedWord? (dialect : Dialect) : Word → Option Assignment
  | .literal false t :: rest =>
      match assignedValue? dialect (.literal false t :: rest) with
      | some (adds, value) => some ⟨[], none, adds, value⟩
      | none =>
          if t.all isNameChar then
            (assignedWord? dialect rest).map fun a => { a with name := t ++ a.name }
          else if t = ['['] && dialect = .bash then do
            let (key, rest) ← subscriptWord? rest
            let (adds, value) ← assignedValue? dialect rest
            return ⟨[], some key, adds, value⟩
          else none
  | _ => none

/-- The assignment that a word is. -/
def assignment? (dialect : Dialect) (w : Word) : Option Assignment :=
  (assignedWord? dialect w).filter fun a => isName a.name

/-- The elements that are assigned, as a text. -/
def Assignment.elements? (a : Assignment) : Option Text :=
  match a.value with
  | [.elements list] => some list
  | _ => none

/-- The assignments with which a command begins, and its other words. -/
def splitAssignments (dialect : Dialect) : List Word → List Assignment × List Word
  | [] => ([], [])
  | w :: words =>
      match assignment? dialect w with
      | some a =>
          let (more, rest) := splitAssignments dialect words
          (a :: more, rest)
      | none => ([], w :: words)

/-- The commands whose words may be assignments too. -/
def takesAssignments (dialect : Dialect) (w : Word) : Bool :=
  let names := ["export", "readonly", "local"] ++
    (if dialect = .bash then ["declare", "typeset"] else [])
  names.any fun name => w.bare? == some name.toList

/-- Variables are again what they were before. -/
def State.giveBack (outer : State) (assignments : List Assignment) (s : State) : State :=
  assignments.foldl (fun s a =>
    match Table.get? outer.vars a.name with
    | some v => { s with vars := Table.put s.vars a.name v }
    | none => { s with vars := s.vars.filter (·.1 != a.name) }) s

end KeyMenu.Sh
