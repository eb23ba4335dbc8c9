import KeyMenu.Sh.Regular

/-!
# Snippets

A snippet is a short program that is handed over as a word. It works on scalars, lists of them and
tables of them, each with a sign in front of its name. This module holds what snippets are made of:
expressions (`Expr`) and statements (`Statement`).
-/

namespace KeyMenu.Sh.Snippet

/-- What is computed from two scalars. -/
inductive Operator
  | add
  | subtract
  | multiply
  | divide
  | remainder
  | power
  | join
  | times
  | shiftLeft
  | shiftRight
  | bitAnd
  | bitOr
  | bitXor
  | less
  | more
  | atMost
  | atLeast
  | equal
  | unequal
  | order
  | textLess
  | textMore
  | textAtMost
  | textAtLeast
  | textEqual
  | textUnequal
  | textOrder
  deriving DecidableEq

/-- When the second of two expressions counts: if the first is true, if it is not, or if it is
undefined. -/
inductive Link
  | whenTrue
  | whenFalse
  | whenUndefined

/-- How a round of a loop, or a function, is left. -/
inductive Leaving
  | last
  | next
  | redo
  | giveBack

/-- What has one function as its first argument. -/
inductive Sieve
  | map
  | grep
  | sort
  | first
  | any
  | all
  | reduce
  deriving DecidableEq

/-- What is done with a file that is written to. -/
inductive Showing
  | plain
  | line
  | format
  deriving DecidableEq

mutual

/-- Expressions. -/
inductive Expr
  | number (x : Float)
  | integer (n : Int)
  | text (t : Text)
  | joined (parts : List Expr)
  | joinedList (inner : Expr)
  | variable (sign : Char) (name : Text)
  | dereference (sign : Char) (inner : Expr)
  | item (list : Expr) (index : Expr)
  | entry (table : Expr) (key : Expr)
  | items (list : Expr) (indices : Expr)
  | entries (table : Expr) (keys : Expr)
  | pick (list : Expr) (indices : Expr)
  | lastIndex (list : Expr)
  | own (isShared : Bool) (names : List (Char × Text)) (isList : Bool)
  | saved (inner : Expr)
  | assign (target : Expr) (op : Option Operator) (value : Expr)
  | assignWhen (link : Link) (target : Expr) (value : Expr)
  | compute (op : Operator) (left right : Expr)
  | linked (link : Link) (left right : Expr)
  | not (inner : Expr)
  | negate (inner : Expr)
  | complement (inner : Expr)
  | choose (condition yes no : Expr)
  | step (target : Expr) (isBefore : Bool) (by' : Int)
  | range (mark : Nat) (start stop : Expr)
  | list (inner : List Expr)
  | call (name : Text) (arguments : List Expr)
  | apply (function : Expr) (arguments : List Expr)
  | function (name : Text) (arguments : List Expr)
  | sieve (kind : Sieve) (body : Expr) (arguments : List Expr)
  | show (kind : Showing) (file : Option Expr) (arguments : List Expr)
  | fits (target : Option Expr) (pattern : Expr) (flags : Text)
  | replace (target : Option Expr) (pattern : Expr) (by' : Expr) (flags : Text)
  | exchange (target : Option Expr) (signs others flags : Text)
  | pattern (inner : Expr) (flags : Text)
  | readLine (file : Expr)
  | command (inner : Expr)
  | newList (inner : List Expr)
  | newTable (inner : List Expr)
  | newFunction (body : List Statement)
  | reference (inner : Expr)
  | fileTest (letter : Char) (inner : Expr)
  | block (body : List Statement)
  | trial (body : List Statement)
  | leave (how : Leaving) (label : Text) (value : Option Expr)
  | method (target : Expr) (name : Text) (arguments : List Expr)

/-- Statements. -/
inductive Statement
  | nothing
  | expression (line : Nat) (e : Expr)
  | choose (branches : List (Expr × List Statement)) (others : List Statement)
  | whileTrue (label : Text) (condition : Expr) (isNegated : Bool) (body step : List Statement)
  | atLeastOnce (body : Expr) (condition : Expr) (isNegated : Bool)
  | steps (label : Text) (start : Expr) (condition : Option Expr) (step : Expr)
      (body : List Statement)
  | forEach (label : Text) (name : Option (Bool × Text)) (items : Expr) (body : List Statement)
  | block (label : Text) (body : List Statement)
  | define (name : Text) (body : List Statement)
  | atEnd (body : List Statement)
  | atStart (body : List Statement)
  | load (name : Text) (line : Nat)

end

end KeyMenu.Sh.Snippet
