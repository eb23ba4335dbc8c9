import KeyMenu.Sh.State

/-!
# Variables of several values

In one of the shells a variable may have several values, under numbers or under any texts. A name
with a subscript in brackets means one of them or all (`Subscript`). Numbers below zero count from
the end.
-/

namespace KeyMenu.Sh

/-- What stands in brackets behind a name. -/
inductive Subscript
  | all (isOne : Bool)
  | of (key : Text)
  deriving DecidableEq

/-- The name and the subscript that a text is. -/
def subscript? (t : Text) : Option (Text × Subscript) := do
  let (name, rest) ← Text.splitFirst ['['] t
  if rest.getLast? ≠ some ']' || !isName name then none
  else
    match rest.dropLast with
    | ['@'] => return (name, .all false)
    | ['*'] => return (name, .all true)
    | key => return (name, .of key)

/-- Puts a value under a number, in the order of numbers. -/
def putNumbered (key : Text) (value : Text) : Table Text → Table Text
  | [] => [(key, value)]
  | (k, v) :: rest =>
      if k = key then (key, value) :: rest
      else if digitsValue key < digitsValue k then (key, value) :: (k, v) :: rest
      else (k, v) :: putNumbered key value rest

/-- The place of a text among those that a variable of one of the shells has its values under: a
number that its bytes make up. -/
def keyPlace (key : Text) : Nat :=
  key.foldl (fun n c => (n * 16777619 % 4294967296) ^^^ c.toNat) 2166136261 % 1024

/-- Puts a value under a text, in the order of places; of several texts at one place the last one
comes first. -/
def putKeyed (key : Text) (value : Text) (values : Table Text) : Table Text :=
  if values.any (·.1 == key) then Table.put values key value
  else
    let isBefore (entry : Text × Text) : Bool := keyPlace entry.1 < keyPlace key
    values.takeWhile isBefore ++ (key, value) :: values.dropWhile isBefore

namespace State

/-- Gives a variable one value more, or another one, as it stands. -/
def putElement (name key value : Text) (s : State) : State :=
  let before := (s.values? name).getD []
  let isKeyed := s.isKeyed name
  s.putValues name isKeyed
    (if isKeyed then putKeyed key value before else putNumbered key value before)

/-- The number that comes after those of a variable. -/
def nextKey (s : State) (name : Text) : Nat :=
  (((s.values? name).getD []).map fun (key, _) => digitsValue key + 1).foldl max 0

/-- The text under which a value stands that is asked for by a number; there is none before the
first. -/
def keyAt? (s : State) (name : Text) (n : Int) : Option Text :=
  let place := if n < 0 then n + s.nextKey name else n
  if place < 0 then none else some (Text.ofInt place)

/-- Forgets one of the values of a variable. -/
def forgetElement (name key : Text) (s : State) : State :=
  match s.held? name with
  | some (.many isKeyed values) => s.putValues name isKeyed (values.filter (·.1 != key))
  | _ => if key = ['0'] then s.forget name else s

end State

/-- Values come in the order of their numbers. -/
example : (putNumbered "3".toList ['c'] [(['1'], ['a']), ("10".toList, ['b'])]).map Prod.snd =
    [['a'], ['c'], ['b']] := by decide

end KeyMenu.Sh
