import KeyMenu.Sh.Rules.Datum
import KeyMenu.Sh.Tool.Basic
import Std.Data.HashMap

/-!
# Rules at work

While rules are carried out there are variables and arrays, the present record with its fields, what
is left of the input, and files and commands that are read from or written to (`Running`). What is
done may end early (`Ending`), and `Act` threads both.
-/

namespace KeyMenu.Sh.Rules

/-- The elements of an array under their keys, each with the number of its entry. -/
structure Elements where
  entries : Std.HashMap Text (Nat × Datum)
  count : Nat

/-- What a name stands for: a datum, an array by its number, or an array or nothing at all. -/
inductive Slot
  | plain (d : Datum)
  | array (n : Nat)
  | either (n : Nat)

/-- Where output has been sent to: an open file, a stream of the process, or a command that is given
all of it when it is closed; the last part comes first. -/
inductive Outlet
  | opening (n : Nat)
  | stream (n : Nat)
  | command (parts : List Text)

/-- The state of rules that are carried out. -/
structure Running where
  state : State
  globals : Std.HashMap Text Slot
  locals : Table Slot
  arrays : Array Elements
  record : Datum
  fields : Array Datum
  input : Option Text
  nextWord : Nat
  hasRead : Bool
  files : Table Text
  commands : Table (Text × Int)
  outlets : Table Outlet
  shown : List Text
  ranges : List Nat
  status : Int
  seed : Nat
  seedGiven : Float

/-- How an action ends early. -/
inductive Ending
  | next
  | nextFile
  | leave
  | goOn
  | giveBack (d : Datum)
  | exit
  | failed (message : Text)
  | halted

/-- What is done with the state of rules, and may end early. -/
abbrev Act := ExceptT Ending (StateM Running)

/-- A fault that ends the program. -/
def failBecause {α : Type} (message : Text) : Act α := throw (.failed message)

/-- Does something to the process. -/
def change (f : State → State) : Act Unit := do
  modify fun r => { r with state := f r.state }
  if (← get).state.isStopped then throw .halted

/-- Hands on what has been shown. -/
def flush : Act Unit := do
  let r ← get
  if !r.shown.isEmpty then
    set { r with shown := [] }
    change (·.put r.shown.reverse.flatten)

/-- Shows a text. -/
def reveal (t : Text) : Act Unit := modify fun r => { r with shown := t :: r.shown }

/-! ### Variables -/

/-- What a name stands for, if it has been used. -/
def slot? (name : Text) : Act (Option Slot) := do
  let r ← get
  return (Table.get? r.locals name).or r.globals[name]?

/-- Lets a name stand for something. -/
def putSlot (name : Text) (slot : Slot) : Act Unit := modify fun r =>
  if r.locals.any (·.1 == name) then { r with locals := Table.put r.locals name slot }
  else { r with globals := r.globals.insert name slot }

/-- The datum of a global name. -/
def Running.global (r : Running) (name : String) : Datum :=
  match r.globals[name.toList]? with
  | some (.plain d) => d
  | _ => .unset

/-- Sets the datum of a global name. -/
def setGlobal (name : String) (d : Datum) : Act Unit :=
  modify fun r => { r with globals := r.globals.insert name.toList (.plain d) }

/-- The text of a datum. -/
def textOf (d : Datum) : Act Text := do
  match d with
  | .text t => return t
  | .number x =>
      if x == x.floor then return d.spelled "%.6g".toList
      else return d.spelled (((← get).global "CONVFMT").spelled "%.6g".toList)
  | d => return d.spelled []

/-- The text of a global name. -/
def globalText (name : String) : Act Text := do textOf ((← get).global name)

/-- A new array, by its number. -/
def newArray : Act Nat := do
  let r ← get
  set { r with arrays := r.arrays.push ⟨∅, 0⟩ }
  return r.arrays.size

/-- The array of a name. -/
def arrayOf (name : Text) : Act Nat := do
  let isNew : Act Nat := do
    let n ← newArray
    putSlot name (.array n)
    return n
  match ← slot? name with
  | some (.array n) => return n
  | some (.either n) =>
      putSlot name (.array n)
      return n
  | some (.plain .unset) => isNew
  | none => isNew
  | some (.plain _) => failBecause ("illegal reference to variable ".toList ++ name)

/-- The elements of an array. -/
def elements (n : Nat) : Act Elements := do return ((← get).arrays[n]?).getD ⟨∅, 0⟩

/-- Sets an element of an array. -/
def setElement (n : Nat) (key : Text) (d : Datum) : Act Unit := modify fun r =>
  { r with arrays := r.arrays.modify n fun a =>
    match a.entries[key]? with
    | some (number, _) => { a with entries := a.entries.insert key (number, d) }
    | none => ⟨a.entries.insert key (a.count, d), a.count + 1⟩ }

/-- An element of an array; it is made where there is none. -/
def element (n : Nat) (key : Text) : Act Datum := do
  match (← elements n).entries[key]? with
  | some (_, d) => return d
  | none =>
      setElement n key .unset
      return .unset

/-- Gives an array other elements, numbered from one. -/
def setElements (n : Nat) (values : List Datum) : Act Unit := do
  modify fun r => { r with arrays := r.arrays.modify n fun _ => ⟨∅, 0⟩ }
  for (d, i) in values.zipIdx 1 do
    setElement n (Text.ofNat i) d

/-- The keys of an array, in the order in which they came. -/
def keysOf (n : Nat) : Act (List Text) := do
  let found := (← elements n).entries.toList.map fun (key, number, _) => (number, key)
  return (found.mergeSort fun a b => a.1 ≤ b.1).map Prod.snd

/-! ### Records and fields -/

/-- Cuts a text into fields. -/
def fieldsOf (t : Text) : Act (Array Datum) := do
  let separator ← globalText "FS"
  match Cut.ofText? separator with
  | none => failBecause ("regular expression compile failed\n".toList ++ separator)
  | some cut =>
      let isParagraph := (← globalText "RS").isEmpty
      let pieces := match isParagraph, cut with
        | true, .blanks => cut.pieces t
        | true, cut => (t.splitOn '\n').flatMap cut.pieces
        | false, cut => cut.pieces t
      return (pieces.map Datum.ofInput).toArray

/-- Sets the present record. -/
def setRecord (t : Text) : Act Unit := do
  let fields ← fieldsOf t
  modify fun r => { r with
    record := .ofInput t
    fields := fields
    globals := r.globals.insert "NF".toList (.plain (.number (Float.ofNat fields.size))) }

/-- Sets the fields of the present record, and makes the record of them. -/
def setFields (fields : Array Datum) : Act Unit := do
  let separator ← globalText "OFS"
  let texts ← fields.toList.mapM textOf
  modify fun r => { r with
    record := .ofInput (Text.joinWith separator texts)
    fields := fields
    globals := r.globals.insert "NF".toList (.plain (.number (Float.ofNat fields.size))) }

/-- The most fields that a record may have. -/
def fieldLimit : Int := 1000000

/-- A number that a field can have. -/
def fieldNumber (d : Datum) : Act Nat := do
  let n := wholeOf d.numeric
  if n < 0 then failBecause ("negative field index $".toList ++ Text.ofInt n)
  else if fieldLimit < n then failBecause "maximum number of fields exceeded".toList
  else return n.toNat

/-- A field of the present record. -/
def field (n : Nat) : Act Datum := do
  let r ← get
  if n = 0 then return r.record else return (r.fields[n - 1]?).getD .unset

/-- Fields, at least so many of them. -/
def padded (fields : Array Datum) (count : Nat) : Array Datum :=
  fields ++ Array.replicate (count - fields.size) (Datum.text [])

/-- Sets a field of the present record. -/
def setField (n : Nat) (d : Datum) : Act Unit := do
  if n = 0 then setRecord (← textOf d)
  else setFields ((padded (← get).fields n).setIfInBounds (n - 1) d)

/-- Sets a variable. -/
def setVariable (name : Text) (d : Datum) : Act Unit := do
  match ← slot? name with
  | some (.array _) => failBecause ("illegal reference to array ".toList ++ name)
  | _ =>
      putSlot name (.plain d)
      if name = ['N', 'F'] then
        let n ← fieldNumber d
        setFields ((padded (← get).fields n).extract 0 n)

/-- The datum of a variable. -/
def datumOf (name : Text) : Act Datum := do
  match ← slot? name with
  | some (.plain d) => return d
  | some (.array _) => failBecause ("illegal reference to array ".toList ++ name)
  | _ => return .unset

/-- A place for a datum. -/
inductive Location
  | variable (name : Text)
  | element (array : Nat) (key : Text)
  | field (n : Nat)

/-- What stands in a place. -/
def Location.get : Location → Act Datum
  | .variable name => datumOf name
  | .element n key => Rules.element n key
  | .field n => Rules.field n

/-- Puts a datum into a place. -/
def Location.put : Location → Datum → Act Unit
  | .variable name, d => setVariable name d
  | .element n key, d => setElement n key d
  | .field n, d => setField n d

/-! ### Input -/

/-- A word that sets a variable: the name and the value. -/
def assignmentWord? (word : Text) : Option (Text × Datum) :=
  match Text.splitFirst ['='] word with
  | some (c :: name, value) =>
      if (c.isAlpha || c = '_') && name.all fun c => c.isAlphanum || c == '_' then
        let value := match Token.quoted (2 * value.length + 4)
            (value.flatMap (fun c => if c = '"' then ['\\', '"'] else [c]) ++ ['"']) with
          | some (t, _) => t
          | none => value
        some (c :: name, .ofInput value)
      else none
  | _ => none

/-- Opens the next input: a file that a word names, or the input of the process if none does. -/
def openNext : Nat → Act Bool
  | 0 => return false
  | fuel + 1 => do
      let r ← get
      let standard : Act Bool := do
        let (s, t) := r.state.readAll
        change fun _ => s
        modify fun r => { r with input := some t, hasRead := true }
        return true
      if ((r.nextWord : Int)) < wholeOf (r.global "ARGC").numeric then
        set { r with nextWord := r.nextWord + 1 }
        let words ← arrayOf "ARGV".toList
        let word ← match (← elements words).entries[Text.ofNat r.nextWord]? with
          | some (_, d) => textOf d
          | none => pure []
        if word.isEmpty then openNext fuel
        else
          match assignmentWord? word with
          | some (name, d) =>
              setVariable name d
              openNext fuel
          | none =>
              setGlobal "FILENAME" (.text word)
              setGlobal "FNR" (.number 0)
              if word = ['-'] || word = "/dev/stdin".toList then standard
              else
                match r.state.textAt word with
                | .ok (s, t) =>
                    change fun _ => s
                    modify fun r => { r with input := some t, hasRead := true }
                    return true
                | .error .isADirectory => failBecause "read error (Is a directory)".toList
                | .error fault =>
                    failBecause ("cannot open \"".toList ++ word ++ "\" (".toList ++
                      fault.message ++
                      [')'])
      else if r.hasRead then return false
      else standard

/-- The next record of the input. -/
def nextRecord : Nat → Act (Option Text)
  | 0 => return none
  | fuel + 1 => do
      match (← get).input with
      | some t =>
          match nextRecord? (← globalText "RS") t with
          | some (record, rest) =>
              modify fun r => { r with input := some rest }
              for name in ["NR", "FNR"] do
                setGlobal name (.number (((← get).global name).numeric + 1))
              return some record
          | none =>
              modify fun r => { r with input := none }
              nextRecord fuel
      | none =>
          if ← openNext 100000 then nextRecord fuel else return none

/-- The fuel for the next record: there are no more inputs than that. -/
def inputFuel : Nat := 100000

/-- The next record of a file, or nothing at its end; there is nothing to be read where it is not
there. -/
def nextOfFile (path : Text) : Act (Except Unit (Option Text)) := do
  let r ← get
  let held : Option Text ← match Table.get? r.files path with
    | some t => pure (some t)
    | none =>
        if path = ['-'] || path = "/dev/stdin".toList then
          let (s, t) := r.state.readAll
          change fun _ => s
          pure (some t)
        else
          match r.state.textAt path with
          | .ok (s, t) =>
              change fun _ => s
              pure (some t)
          | .error .isADirectory => failBecause "read error (Is a directory)".toList
          | .error _ => pure none
  match held with
  | none => return .error ()
  | some t =>
      let found := nextRecord? (← globalText "RS") t
      let rest := (found.map Prod.snd).getD []
      modify fun r => { r with files := Table.put r.files path rest }
      return .ok (found.map Prod.fst)

/-- The next record of what a command writes. -/
def nextOfCommand (runners : Runners) (command : Text) : Act (Option Text) := do
  let held : Text × Int ← match Table.get? (← get).commands command with
    | some held => pure held
    | none =>
        flush
        let (s, t) := (← get).state.captured (runners.shell command)
        change fun _ => s
        pure (t, s.status)
  let found := nextRecord? (← globalText "RS") held.1
  modify fun r => { r with
    commands := Table.put r.commands command ((found.map Prod.snd).getD [], held.2) }
  return found.map Prod.fst

/-! ### Output -/

/-- Runs a command that is given a text. -/
def feed (runners : Runners) (command t : Text) : Act Int := do
  let before := (← get).state.streams
  change fun s =>
    let after := runners.shell command (s.offer 0 t)
    { after with streams := before }
  return (← get).state.status

/-- Writes a text to where output is sent. -/
def send (sink : Sink) (name t : Text) : Act Unit := do
  let r ← get
  let put (outlet : Outlet) : Act Unit :=
    modify fun r => { r with outlets := Table.put r.outlets name outlet }
  let outlet ← match Table.get? r.outlets name with
    | some outlet => pure outlet
    | none =>
        if sink = .command then
          flush
          pure (.command [])
        else
          match streamAt? name with
          | some n => pure (.stream n)
          | none =>
              match r.state.openAt name (if sink = .append then .append else .write) with
              | .ok (s, n) =>
                  change fun _ => s
                  pure (.opening n)
              | .error fault =>
                  failBecause ("cannot open \"".toList ++ name ++ "\" for output (".toList ++
                    fault.message ++ [')'])
  match outlet with
  | .command parts => put (.command (t :: parts))
  | .stream 1 =>
      put outlet
      reveal t
  | .stream n =>
      put outlet
      change fun s => (s.writeTo? n t).getD s
  | .opening n =>
      put outlet
      change fun s => match s.world.append? n t with
        | some world => { s with world := world }
        | none => s

/-- Closes what is read from or written to under a name, and gives its status. -/
def closeName (runners : Runners) (name : Text) : Act Int := do
  let r ← get
  let outlet := Table.get? r.outlets name
  let command := Table.get? r.commands name
  let isFile := (Table.get? r.files name).isSome
  let without {α : Type} (t : Table α) : Table α := t.filter (·.1 != name)
  set { r with
    outlets := without r.outlets, commands := without r.commands, files := without r.files }
  match outlet, command with
  | some (.command parts), _ =>
      flush
      feed runners name parts.reverse.flatten
  | some _, _ => return 0
  | none, some (_, status) => return status
  | none, none => return if isFile then 0 else -1

/-- Closes everything: commands get what has been written for them, and then comes what has been
shown. -/
def closeAll (runners : Runners) : Act Unit := do
  for (name, outlet) in (← get).outlets do
    match outlet with
    | .command parts =>
        modify fun r => { r with outlets := r.outlets.filter (·.1 != name) }
        let _ ← feed runners name parts.reverse.flatten
    | _ => pure ()
  flush

/-! ### Formats -/

/-- What a directive makes of a datum; there is nothing if it is none. -/
def directiveText? (d : Directive) (value : Datum) (t : Text) : Option Text :=
  let x := value.numeric
  let fraction := d.fraction (Dyadic.ofFloat x)
  match d.letter with
  | 's' => some (d.padded false (match d.precision with | some n => t.take n | none => t))
  | 'c' =>
      let c := match value with
        | .text [] => ['\x00']
        | .text t => t.take 1
        | value => [Char.ofNat (wholeOf value.numeric % 256).toNat]
      some (d.padded false c)
  | 'd' => some (whole x)
  | 'i' => some (whole x)
  | 'o' => some (d.integer (wholeOf x))
  | 'x' => some (d.integer (wholeOf x))
  | 'X' => some (d.integer (wholeOf x))
  | 'u' => some (d.integer (wholeOf x))
  | 'e' => some fraction
  | 'E' => some fraction
  | 'f' => some fraction
  | 'F' => some fraction
  | 'g' => some fraction
  | 'G' => some fraction
  | _ => none
where
  /-- A whole number within the limits. -/
  whole (x : Float) : Text :=
    let n := wholeOf x
    if n < -9223372036854775807 then d.integer (-9223372036854775807)
    else if 9223372036854775807 < n
        then { d with letter := 'u' }.integer (min n 18446744073709551615)
    else d.integer n

/-- A format with its directives filled in, as far as that goes; what is wrong then is told. -/
def filled (whole : Text) : Nat → Text → List Datum → Act (Text × Option Text)
  | 0, _, _ => return ([], none)
  | _ + 1, [], _ => return ([], none)
  | fuel + 1, '%' :: '%' :: rest, values => do
      let (t, fault) ← filled whole fuel rest values
      return ('%' :: t, fault)
  | fuel + 1, '%' :: rest, values => do
      let failing (what : String) : Text × Option Text :=
        ([], some (what.toList ++ " printf(\"".toList ++ whole ++ "\")".toList))
      match Directive.read? rest (← values.mapM textOf) with
      | none => return failing "improper conversion in"
      | some (d, rest, words) =>
          match values.drop (values.length - words.length) with
          | [] => return failing "not enough arguments passed to"
          | value :: values =>
              match directiveText? d value (← textOf value) with
              | none => return failing "improper conversion in"
              | some written =>
                  let (t, fault) ← filled whole fuel rest values
                  return (written ++ t, fault)
  | fuel + 1, c :: rest, values => do
      let (t, fault) ← filled whole fuel rest values
      return (c :: t, fault)

/-- A format with its directives filled in, as far as that goes; what is wrong then is told. -/
def formatted (format : Text) (values : List Datum) : Act (Text × Option Text) :=
  filled format (format.length + 1) format values

end KeyMenu.Sh.Rules
