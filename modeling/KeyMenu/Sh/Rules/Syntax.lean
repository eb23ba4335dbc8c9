import KeyMenu.Sh.Regular

/-!
# Programs of rules

A program of rules reads records and does something with those that meet a condition. This module
holds what such a program is made of: expressions (`Expr`), actions (`Action`), rules (`Rule`) and
functions (`Definition`), all together a `Program`.
-/

namespace KeyMenu.Sh.Rules

/-- What is computed from two numbers. -/
inductive Operator
  | add
  | subtract
  | multiply
  | divide
  | remainder
  | power

/-- How two values are compared. -/
inductive Relation
  | less
  | atMost
  | equal
  | unequal
  | atLeast
  | more

/-- The functions that are there without being defined. -/
inductive Function
  | length
  | part
  | index
  | split
  | replace (isForAll : Bool)
  | place
  | format
  | small
  | capital
  | sine
  | cosine
  | arctangent
  | exponential
  | logarithm
  | root
  | whole
  | chance
  | seed
  | system
  | close
  | flush
  | time
  | date
  | moment

/-- Where a record is read from. -/
inductive Source
  | input
  | file
  | command

/-- Where output goes to. -/
inductive Sink
  | output
  | file
  | append
  | command
  deriving DecidableEq

/-- Expressions. -/
inductive Expr
  | number (x : Float)
  | text (t : Text)
  | regular (r : Regular)
  | name (n : Text)
  | element (array : Text) (keys : List Expr)
  | field (number : Expr)
  | assign (target : Expr) (op : Option Operator) (value : Expr)
  | step (target : Expr) (isBefore : Bool) (op : Operator)
  | compute (op : Operator) (left right : Expr)
  | compare (relation : Relation) (left right : Expr)
  | join (left right : Expr)
  | fits (isNegated : Bool) (left right : Expr)
  | within (keys : List Expr) (array : Text)
  | not (inner : Expr)
  | negate (inner : Expr)
  | plus (inner : Expr)
  | and (left right : Expr)
  | or (left right : Expr)
  | choose (condition yes no : Expr)
  | group (inner : List Expr)
  | call (function : Text) (arguments : List Expr)
  | apply (function : Function) (arguments : List Expr)
  | read (source : Source) (place : Option Expr) (target : Option Expr)

/-- Actions. -/
inductive Action
  | nothing
  | expression (e : Expr)
  | print (values : List Expr) (sink : Sink) (place : Option Expr)
  | format (values : List Expr) (sink : Sink) (place : Option Expr)
  | after (first second : Action)
  | choose (condition : Expr) (yes no : Action)
  | whileTrue (condition : Expr) (body : Action)
  | untilFalse (body : Action) (condition : Expr)
  | steps (start : Action) (condition : Option Expr) (step body : Action)
  | forKeys (name array : Text) (body : Action)
  | delete (array : Text) (keys : Option (List Expr))
  | next
  | nextFile
  | exit (status : Option Expr)
  | giveBack (value : Option Expr)
  | leave
  | goOn

/-- When something is done: before all records, behind them, for each of them, for those that meet a
condition, or for those from one that meets a condition to one that meets another. -/
inductive Condition
  | first
  | last
  | always
  | holds (e : Expr)
  | between (start stop : Expr)

/-- A condition and what is done then. -/
structure Rule where
  condition : Condition
  action : Action

/-- A function: the names of its arguments, and what it does. -/
structure Definition where
  parameters : List Text
  body : Action

/-- Rules and functions. -/
structure Program where
  rules : List Rule
  functions : List (Text × Definition)

end KeyMenu.Sh.Rules
