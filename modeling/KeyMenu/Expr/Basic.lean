import KeyMenu.Table

/-!
# Expressions

An expression is a sequence of literal texts and references to snippets, joined left to right.

* `Part`, `Expr`; the parameter `ε` stands for foreign elements, which can come in from outside
  and cannot be expanded. Configurations have none (`ε` is `Empty` there);
* `Expr.references`, `Expr.label`.
-/

namespace KeyMenu

/-- An element of an expression. -/
inductive Part (ε : Type := Empty)
  | literal (value : Text)
  | reference (name : Text)
  | foreign (element : ε)
  deriving DecidableEq

/-- Elements, joined left to right. -/
abbrev Expr (ε : Type := Empty) := List (Part ε)

/-- Named expressions. -/
abbrev Snippets (ε : Type := Empty) := Table (Expr ε)

namespace Expr

/-- The snippet names that an expression refers to, in order, repetitions kept. -/
def references {ε : Type} (e : Expr ε) : List Text :=
  e.filterMap fun
    | .reference name => some name
    | _ => none

/-- An element as it is shown in the label of a command. -/
def partLabel : Part → Text
  | .literal value => '"' :: value ++ ['"']
  | .reference name => '$' :: name

/-- How an expression is shown where its command has no name: a single literal as it stands, any
other with its elements marked. -/
def label : Expr → Text
  | [.literal value] => value
  | parts => Text.joinWith " + ".toList (parts.map partLabel)

end Expr

end KeyMenu
