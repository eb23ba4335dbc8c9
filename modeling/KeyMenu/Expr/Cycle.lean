import KeyMenu.Expr.Expand

/-!
# Snippets that never end

`Snippets.faults` checks a table of snippets: every reference must name a snippet of the table,
and no snippet may lead back to itself. The search for a cycle walks the references depth first
and does not enter a name twice; the names from which it has come back are done.
-/

namespace KeyMenu

/-- What is wrong with a table of snippets. -/
inductive SnippetFault
  | undefined (snippet reference : Text)
  | cycle (names : List Text)
  deriving DecidableEq

/-- The wording of a fault. -/
def SnippetFault.message : SnippetFault → Text
  | .undefined snippet reference =>
      "snippet '".toList ++ snippet ++ "': undefined snippet '".toList ++ reference ++ ['\x27']
  | .cycle names => cycleText names

namespace Snippets

/-- References to names that the table does not have. -/
def undefinedReferences (table : Snippets) : List SnippetFault :=
  table.flatMap fun (name, e) =>
    (e.references.filter fun reference => (table.get? reference).isNone).map (.undefined name ·)

/-- Walks from each of the names in turn, with `path` leading to them and `done` behind it. The
result is the first cycle met, or the names done in the end. -/
def walk (table : Snippets) (path done : List Text) (names : List Text) :
    Except (List Text) (List Text) :=
  match names with
  | [] => .ok done
  | name :: more =>
      if name ∈ path then .error (closedCycle path name)
      else if name ∈ done then walk table path done more
      else
        match _hget : table.get? name with
        | none => walk table path done more
        | some e =>
            match walk table (path ++ [name]) done e.references with
            | .error cycle => .error cycle
            | .ok done => walk table path (done ++ [name]) more
termination_by (table.openNames path, names.length)
decreasing_by
  · exact Prod.Lex.right _ (by simp)
  · exact Prod.Lex.right _ (by simp)
  · exact Prod.Lex.left _ _ (openNames_append_lt _hget (by assumption))
  · exact Prod.Lex.right _ (by simp)

/-- A cycle of references, if the walk meets one. -/
def cycle? (table : Snippets) : Option (List Text) :=
  match walk table [] [] table.names with
  | .error cycle => some cycle
  | .ok _ => none

/-- All undefined references; where there are none, the first cycle. -/
def faults (table : Snippets) : List SnippetFault :=
  match undefinedReferences table with
  | [] => (cycle? table).toList.map .cycle
  | undefined => undefined

end Snippets

end KeyMenu
