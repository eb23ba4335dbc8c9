import KeyMenu.Sh.Elements

/-!
# Calculating with variables

The variables of an expression are those of a shell: what they hold is a number, or any expression
in one of the shells (`State.evaluate`). A variable may say of itself what becomes of the values
that it is given (`State.assign`).
-/

namespace KeyMenu.Sh

namespace State

/-- The value of an expression and the state after it. What a variable holds is a number, or any
expression, in which fuel is spent. -/
def evaluate : Nat → Text → State → Except CalculationFault (Int × State)
  | 0, _, _ => .error .senseless
  | fuel + 1, t, s =>
      let keyOf (cell : Cell) (s : State) : Except CalculationFault (Option Text × State) :=
        match cell.key with
        | none => .ok (none, s)
        | some key =>
            if s.isKeyed cell.name then .ok (some key, s)
            else do
              let (n, s) ← evaluate fuel key s
              match s.keyAt? cell.name n with
              | some key => return (some key, s)
              | none => .error .senseless
      let memory : Calculation.Memory State :=
        { ask := fun cell s => do
            let (key, s) ← keyOf cell s
            let held := match key with
              | none => s.value? cell.name
              | some key => (s.values? cell.name).bind (Table.get? · key)
            match held, s.dialect with
            | none, .bash => if s.refusesUnset then .error .unset else .ok (0, s)
            | none, .dash => .ok (0, s)
            | some held, .bash => evaluate fuel held (s.lookedAt cell.name)
            | some held, .dash =>
                match plainNumber? held with
                | some n => .ok (wrapped n, s)
                | none => .error .senseless
          give := fun cell n s => do
            if s.isFixed cell.name then .error .fixed
            else
              let (key, s) ← keyOf cell s
              match key with
              | none => return s.putValue cell.name (Text.ofInt n)
              | some key => return s.putElement cell.name key (Text.ofInt n) }
      match Calculation.ofText? s.dialect t with
      | none => .error .senseless
      | some tree => tree.value memory s

/-- Expressions may lead to others so many times. -/
def evaluateFuel : Nat := 64

/-- What a variable makes of a text that it is given. -/
def converted (s : State) (name value : Text) : State × Text :=
  match s.variableNamed? name with
  | none => (s, value)
  | some v =>
      if v.isNumber then
        match s.evaluate evaluateFuel value with
        | .ok (n, s) => (s, Text.ofInt n)
        | .error _ => ({ s with status := 1, stopped := some .passed }, value)
      else if v.isCapital then (s, value.map capital)
      else if v.isSmall then (s, value.map small)
      else (s, value)

/-- Gives a variable a value, whether it may change or not. -/
def assign (name value : Text) (s : State) : State :=
  let (s, value) := s.converted name value
  if s.isStopped then s else s.putValue name value

/-- One of the shells does not let certain variables be changed where it is restricted. -/
def isGuarded (s : State) (name : Text) : Bool :=
  s.isFixed name || (s.isOn "restricted" &&
    ["PATH", "SHELL", "ENV", "BASH_ENV", "HISTFILE"].any (·.toList == name))

/-- Gives a variable a value; one that is fixed is an error. -/
def assignSafely (name value : Text) (s : State) : State :=
  if !s.isGuarded name then s.assign name value
  else
    let s := s.report (name ++ ": readonly variable".toList)
    if s.stopsOnFailure && s.dialect = .bash then s.exit 1 else s.abandon

/-- A command gives a variable a value; it fails if the variable is fixed. -/
def assignByCommand (name value : Text) (s : State) : State :=
  if s.isGuarded name then s.refuse else s.assign name value

/-- Gives a variable one value more, or another one. -/
def assignElement (name key value : Text) (s : State) : State :=
  if s.isFixed name then s.abandon
  else
    let (s, value) := s.converted name value
    if s.isStopped then s else s.putElement name key value

/-- The key of a value of a variable that is written in brackets; an expression unless the variable
has its values under any texts. -/
def keyFor? (name key : Text) (s : State) : Option (State × Text) :=
  if s.isKeyed name then some (s, key)
  else
    match s.evaluate evaluateFuel key with
    | .ok (n, s) => (s.keyAt? name n).map fun key => (s, key)
    | .error _ => none

/-- A command gives a variable, or one of its values, a value. -/
def assignNamed (name value : Text) (s : State) : State :=
  match subscript? name with
  | some (base, .of key) =>
      match s.keyFor? base key with
      | some (s, key) => if s.isFixed base then s.refuse else s.assignElement base key value
      | none => s.withStatus 1
  | _ => s.assignByCommand name value

/-- A command gives a variable values under numbers. -/
def assignList (name : Text) (values : Table Text) (s : State) : State :=
  if s.isFixed name then s.refuse else s.putValues name false values

/-- Forgets a variable, or one of its values. -/
def forgetAny (name : Text) (s : State) : State :=
  match subscript? name with
  | some (name, .of key) =>
      match s.keyFor? name key with
      | some (s, key) => s.forgetElement name key
      | none => s.withStatus 1
  | some (name, .all _) => s.forget name
  | none => s.forget name

end State

end KeyMenu.Sh
