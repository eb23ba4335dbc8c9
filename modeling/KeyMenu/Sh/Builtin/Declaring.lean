import KeyMenu.Sh.Builtin.Basic
import KeyMenu.Sh.Listing
import KeyMenu.Sh.Parameter

/-!
# Declaring variables

The commands that say what variables are: that programs are handed them, that they may not change,
that they hold numbers or several values, that they belong to a function; and that they are no more.
-/

namespace KeyMenu.Sh

/-- A variable that is handed to programs under the name of a function, with the text of it. -/
def functionVariable (name : Text) : Text := "BASH_FUNC_".toList ++ name ++ "%%".toList

namespace State

/-- A name cannot be one of a variable. -/
def refuseName (who name : Text) (s : State) : State :=
  let s := if s.dialect = .dash then s.blame who (name ++ ": bad variable name".toList)
    else s.blame who ('\x60' :: name ++ "\x27: not a valid identifier".toList)
  s.refuseStrictly

/-- The commands that declare variables, in the order of their names. -/
def declarations (s : State) (p : Text → Bool) : Text :=
  (Text.sorted s.vars.names).flatMap fun name =>
    if p name then ((s.declaration? name).map (· ++ ['\n'])).getD [] else []

/-- All variables with their values, in the order of their names. -/
def listing (s : State) : Text :=
  (Text.sorted s.vars.names).flatMap fun name =>
    if !isName name then []
    else
      match s.dialect, s.held? name with
      | _, none => []
      | .dash, some (.one t) => name ++ '=' :: singleQuote t ++ ['\n']
      | .bash, some (.one t) =>
          name ++ '=' :: (if t.isEmpty then [] else plainQuote t) ++ ['\n']
      | _, some (.many isKeyed values) => name ++ '=' :: listText isKeyed values ++ ['\n']

/-- Commands of one of the shells that export variables or fix them. -/
def markedText (s : State) (word : String) (p : Variable → Bool) : Text :=
  (Text.sorted s.vars.names).flatMap fun name =>
    match Table.get? s.vars name with
    | some v => if p v && isName name then
        word.toList ++ ' ' :: name ++ (match v.value with
          | some (.one t) => '=' :: singleQuote t
          | _ => []) ++ ['\n'] else []
    | none => []

end State

/-- Marks variables, and gives them values where they are written. -/
def markAll (who : Text) (mark : Text → State → State) : Tool := fun words s =>
  words.foldl (fun s word =>
    if s.isStopped then s
    else
      let (name, value) := givenValue word
      let adds := s.dialect = .bash && name.getLast? = some '+' && value.isSome
      let name := if adds then name.dropLast else name
      let base := if s.dialect = .bash then ((subscript? name).map Prod.fst).getD name else name
      if !isName base then s.refuseName who (if s.dialect = .dash then name else word)
      else
        match value with
        | none => mark base s
        | some value =>
            if s.isGuarded base then
              let s := s.report (base ++ (if s.dialect = .dash then ": is read only".toList
                else ": readonly variable".toList))
              if s.dialect = .dash then s.abandon else s.withStatus 1
            else
              let before := if adds then (s.value? name).getD [] else []
              mark base (s.assignNamed name (before ++ value))) (s.withStatus 0)

/-- Exports variables, or ceases to. -/
def exportNames : Tool := fun words s =>
  let (letters, names) := lettersFirst words
  let mark (isExported : Bool) (name : Text) (s : State) : State :=
    s.modify name fun v => { v with isExported := isExported }
  if letters.contains 'f' && s.dialect = .bash then
    names.foldl (fun s name =>
      match Table.get? s.functions name with
      | some body =>
          (s.putValue (functionVariable name) ("() ".toList ++ body.bodyListed)).exportName
            (functionVariable name)
      | none => s.withStatus 1) (s.withStatus 0)
  else if letters.contains 'n' && s.dialect = .bash then
    markAll "export".toList (mark false) names s
  else if letters.any (· != 'p') then s.refuseStrictly
  else if names.isEmpty then
    if s.dialect = .dash then s.write (s.markedText "export" (·.isExported))
    else s.write (s.declarations fun name => isName name &&
        (s.variableNamed? name).any (·.isExported))
  else markAll "export".toList (mark true) names s

/-- Fixes variables. -/
def fixNames : Tool := fun words s =>
  let (letters, names) := lettersFirst words
  if names.isEmpty then
    if s.dialect = .dash then s.write (s.markedText "readonly" (·.isFixed))
    else s.write (s.declarations fun name => (s.variableNamed? name).any (·.isFixed))
  else if letters.contains 'f' then s.withStatus 0
  else
    let mark (name : Text) (s : State) : State := s.modify name fun v => { v with isFixed := true }
    let s := if letters.contains 'a' || letters.contains 'A' then
        names.foldl (fun s name => if isName name && (s.values? name).isNone then
          s.putValues name (letters.contains 'A') [] else s) s
      else s
    markAll "readonly".toList mark names s

/-- Gives variables values for as long as a function runs, without any options. -/
def localWords : Tool := fun names s =>
  names.foldl (fun s word =>
    let (name, value) := givenValue word
    if s.isStopped then s
    else if word = ['-'] then s.hideSwitches
    else if !isName name then s.refuseName "local".toList name
    else
      let s := s.hide name
      value.elim s fun value => s.assignSafely name value) (s.withStatus 0)

/-- What letters make of a variable. -/
def Variable.declared (on off : Text) (v : Variable) : Variable :=
  let set (c : Char) (before : Bool) : Bool := (before || on.contains c) && !off.contains c
  { v with
    isExported := set 'x' v.isExported
    isFixed := v.isFixed || on.contains 'r'
    isNumber := set 'i' v.isNumber
    isCapital := set 'u' v.isCapital && !(on.contains 'l')
    isSmall := set 'l' v.isSmall && !(on.contains 'u')
    isReference := set 'n' v.isReference }

/-- Declares a variable: inside a function it is its own. -/
def declareName (who : Text) (isLocal : Bool) (on off word : Text) (s : State) : State :=
  let (name, value) := givenValue word
  let adds := name.getLast? = some '+' && value.isSome
  let name := if adds then name.dropLast else name
  let base := ((subscript? name).map Prod.fst).getD name
  if s.isStopped then s
  else if isLocal && word = ['-'] then s.hideSwitches
  else if !isName base then s.refuseName who word
  else if s.isFixed base && (value.isSome || off.contains 'r') && !isLocal then
    (s.report (base ++ ": readonly variable".toList)).withStatus 1
  else
    let isOwn := !(s.hidden.isEmpty || on.contains 'g')
    let isNew := isOwn && !((s.hidden.head?).any fun frame => (Table.get? frame base).isSome)
    let s := if isOwn then s.hide base else s
    let s := if isNew then { s with vars := s.vars.filter (·.1 != base) } else s
    let marks := on.filter (· != 'r')
    if marks.contains 'n' then
      let v := { ((Table.get? s.vars base).getD .bare).declared marks off with
        value := (value.map .one).or ((Table.get? s.vars base).bind (·.value)) }
      { s with vars := Table.put s.vars base v }
    else if off.contains 'n' then
      let v := ((Table.get? s.vars base).getD .bare).declared marks off
      { s with vars := Table.put s.vars base v }
    else
      let isList := marks.contains 'a' || marks.contains 'A'
      let s := if isList && !(s.held? base matches some (.many _ _)) then
          s.putValues base (marks.contains 'A') ((s.values? base).getD [])
        else s
      let s := s.modify base (·.declared marks off)
      let before := if adds then (s.value? name).getD [] else []
      let s := match value with
        | none => s
        | some value =>
            if adds && (s.variableNamed? base).any (·.isNumber) then
              s.assignNamed name (before ++ '+' :: value)
            else s.assignNamed name (before ++ value)
      if on.contains 'r' then s.modify base (·.declared ['r'] []) else s

/-- Shows functions, all of them or those that are named. -/
def showFunctions (namesOnly : Bool) (names : List Text) (s : State) : State :=
  if names.isEmpty then
    s.write ((Text.sorted s.functions.names).flatMap fun name =>
      if namesOnly then "declare -f ".toList ++ name ++ ['\n']
      else ((Table.get? s.functions name).map (Command.functionListed name)).getD [])
  else
    names.foldl (fun s name =>
      match Table.get? s.functions name with
      | some body => s.put (if namesOnly then name ++ ['\n'] else Command.functionListed name body)
      | none => s.withStatus 1) (s.withStatus 0)

/-- Declares variables by a command of the given name. -/
def declareBy (who : Text) (isLocal : Bool) : Tool := fun words s =>
  let (on, off, names) := signedLetters words
  if on.contains 'F' then showFunctions true names s
  else if on.contains 'f' then showFunctions false names s
  else if on.contains 'p' then
    if names.isEmpty then s.write (s.declarations fun name =>
      isName name && (on.filter (· != 'p')).all fun c => (s.attributes name).contains c)
    else
      names.foldl (fun s name =>
        match s.declaration? name with
        | some t => s.put (t ++ ['\n'])
        | none => (s.blame who (name ++ ": not found".toList)).withStatus 1) (s.withStatus 0)
  else if names.isEmpty then
    if on.isEmpty then s.write s.listing
    else s.write (s.declarations fun name => on.all fun c => (s.attributes name).contains c)
  else
    names.foldl (fun s word => declareName who isLocal on off word s) (s.withStatus 0)

/-- Declares variables. -/
def declareNames : Tool := declareBy "declare".toList false

/-- Gives variables values for as long as a function runs. -/
def localNames : Tool := fun words s =>
  if s.hidden.isEmpty then
    (s.blame "local".toList "can only be used in a function".toList).refuseStrictly
  else if s.dialect = .dash then localWords words s
  else if words.isEmpty then s.withStatus 0
  else declareBy "local".toList true words s

/-- Forgets variables or functions. -/
def unset : Tool := fun words s =>
  let (letters, names) := lettersFirst words
  let withoutFunction (name : Text) (s : State) : State :=
    { s with
      functions := s.functions.filter (·.1 != name)
      vars := s.vars.filter (·.1 != functionVariable name) }
  if letters.any fun c => c != 'f' && c != 'v' && !(c == 'n' && s.dialect = .bash) then
    if s.dialect = .dash then s.exit 2 else s.withStatus 2
  else
    names.foldl (fun s name =>
      let base := if s.dialect = .bash then ((subscript? name).map Prod.fst).getD name else name
      if s.isStopped then s
      else if letters.contains 'f' then withoutFunction name s
      else if letters.contains 'n' then { s with vars := s.vars.filter (·.1 != name) }
      else if !isName base && s.dialect = .bash && letters.isEmpty then withoutFunction name s
      else if !isName base then s.refuseName "unset".toList name
      else if s.isGuarded base then
        (s.blame "unset".toList (if s.dialect = .dash then base ++ ": is read only".toList
          else base ++ ": cannot unset: readonly variable".toList)).refuseStrictly
      else if s.dialect = .bash && base ≠ name then s.forgetAny name
      else if s.dialect = .bash && letters.isEmpty && (s.variableNamed? name).isNone &&
          (s.value? name).isNone then withoutFunction name s
      else s.forget name) (s.withStatus 0)

end KeyMenu.Sh
