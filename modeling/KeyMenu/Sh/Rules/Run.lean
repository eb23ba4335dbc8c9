import KeyMenu.Sh.Calendar
import KeyMenu.Sh.Rules.Running

/-!
# Carrying out rules

Expressions are computed (`eval`) and actions carried out (`exec`), by recursion on fuel. Rules for
the beginning come first, then the rules for every record, and those for the end (`carryOut`).
`processRules` is the program that does this.
-/

namespace KeyMenu.Sh

namespace Rules

/-- What all actions have in common: the functions that are defined, and the way to run commands. -/
structure Setting where
  functions : Table Definition
  runners : Runners

/-- Repeats a step as long as it says so. -/
def repeatWhile (step : Act Bool) : Nat → Running → Except Ending Unit × Running
  | 0, r => (.error .halted, r)
  | n + 1, r =>
      match step.run.run r with
      | (.ok true, r) => repeatWhile step n r
      | (.ok false, r) => (.ok (), r)
      | (.error ending, r) => (.error ending, r)

/-- So many rounds take longer than anyone waits. -/
def roundFuel : Nat := 1000000000

/-- Repeats a step as long as it says so. -/
def untilDone (step : Act Bool) : Act Unit := fun r => repeatWhile step roundFuel r

/-- Carries out the body of a loop; it may be left, or gone on with. -/
def bodyGoesOn (body : Act Unit) : Act Bool := fun r =>
  match body.run.run r with
  | (.error .leave, r) => (.ok false, r)
  | (.error .goOn, r) => (.ok true, r)
  | (.error ending, r) => (.error ending, r)
  | (.ok _, r) => (.ok true, r)

/-- Does something, and something else behind it however it ends. -/
def finally' {α : Type} (first : Act α) (second : Running → Running) : Act α := fun r =>
  let (result, r) := first.run.run r
  (result, second r)

/-- A rule that is not fulfilled may give a datum back. -/
def givenBack (body : Act Unit) : Act Datum := fun r =>
  match body.run.run r with
  | (.error (.giveBack d), r) => (.ok d, r)
  | (.error ending, r) => (.error ending, r)
  | (.ok _, r) => (.ok .unset, r)

/-- A number as a datum. -/
def ofNat (n : Nat) : Datum := .number (Float.ofNat n)

/-- Reads a record in one of the ways there are. -/
def readRecord (runners : Runners) (source : Source) (place : Option Text)
    (target : Option Location) : Act Datum := do
  let keep (found : Option Text) : Act Datum := do
    match found, target with
    | none, _ => return .number 0
    | some t, none =>
        setRecord t
        return .number 1
    | some t, some target =>
        target.put (.ofInput t)
        return .number 1
  match source, place with
  | .input, _ => keep (← nextRecord inputFuel)
  | .file, some path =>
      match ← nextOfFile path with
      | .ok found => keep found
      | .error _ => return .number (-1)
  | .command, some command => keep (← nextOfCommand runners command)
  | _, none => return .number (-1)

mutual

/-- The datum of an expression. -/
def eval (p : Setting) : Nat → Expr → Act Datum
  | 0, _ => throw .halted
  | fuel + 1, e => do
      match e with
      | .number x => return .number x
      | .text t => return .text t
      | .regular r => return .ofBool (r.occursIn (← textOf (← get).record))
      | .name n => datumOf n
      | .element array keys =>
          let n ← arrayOf array
          element n (← keyOf p fuel keys)
      | .field e => field (← fieldNumber (← eval p fuel e))
      | .assign target op value =>
          let target ← targetOf p fuel target
          let d ← eval p fuel value
          let d ← match op with
            | some op => do pure (Datum.number (op.apply (← target.get).numeric d.numeric))
            | none => pure d
          target.put d
          return d
      | .step target isBefore op =>
          let target ← targetOf p fuel target
          let before := (← target.get).numeric
          let after := op.apply before 1
          target.put (.number after)
          return .number (if isBefore then after else before)
      | .compute op left right =>
          let x ← eval p fuel left
          let y ← eval p fuel right
          return .number (op.apply x.numeric y.numeric)
      | .compare relation left right =>
          let a ← eval p fuel left
          let b ← eval p fuel right
          return .ofBool (Datum.compare (← globalText "CONVFMT") relation a b)
      | .join left right =>
          let a ← textOf (← eval p fuel left)
          let b ← textOf (← eval p fuel right)
          return .text (a ++ b)
      | .fits isNegated left right =>
          let t ← textOf (← eval p fuel left)
          let r ← regularOf p fuel right
          return .ofBool (r.occursIn t != isNegated)
      | .within keys array =>
          let key ← keyOf p fuel keys
          return .ofBool ((← elements (← arrayOf array)).entries.contains key)
      | .not e => return .ofBool !(← eval p fuel e).isTrue
      | .negate e => return .number (-(← eval p fuel e).numeric)
      | .plus e => return .number (← eval p fuel e).numeric
      | .and left right =>
          if (← eval p fuel left).isTrue then return .ofBool (← eval p fuel right).isTrue
          else return .ofBool false
      | .or left right =>
          if (← eval p fuel left).isTrue then return .ofBool true
          else return .ofBool (← eval p fuel right).isTrue
      | .choose c yes no => if (← eval p fuel c).isTrue then eval p fuel yes else eval p fuel no
      | .group es =>
          match es with
          | [e] => eval p fuel e
          | es => return .text (← keyOf p fuel es)
      | .call name arguments => call p fuel name arguments
      | .apply f arguments => apply p fuel f arguments
      | .read source place target =>
          let place ← match place with
            | some e => some <$> (do textOf (← eval p fuel e))
            | none => pure none
          let target ← match target with
            | some e => some <$> targetOf p fuel e
            | none => pure none
          readRecord p.runners source place target

/-- The key that stands for several expressions. -/
def keyOf (p : Setting) : Nat → List Expr → Act Text
  | 0, _ => throw .halted
  | fuel + 1, keys => do
      let texts ← keys.mapM fun e => do textOf (← eval p fuel e)
      match texts with
      | [t] => return t
      | texts => return Text.joinWith (← globalText "SUBSEP") texts

/-- The regular expression that an expression is, or that its text is. -/
def regularOf (p : Setting) : Nat → Expr → Act Regular
  | 0, _ => throw .halted
  | fuel + 1, e => do
      match e with
      | .regular r => return r
      | .group [.regular r] => return r
      | e =>
          let t ← textOf (← eval p fuel e)
          match regular? t with
          | some r => return r
          | none => failBecause ("regular expression compile failed\n".toList ++ t)

/-- The place for which an expression stands. -/
def targetOf (p : Setting) : Nat → Expr → Act Location
  | 0, _ => throw .halted
  | fuel + 1, e => do
      match e with
      | .name n => return .variable n
      | .element array keys =>
          let n ← arrayOf array
          return .element n (← keyOf p fuel keys)
      | .field e => return .field (← fieldNumber (← eval p fuel e))
      | .group [e] => targetOf p fuel e
      | _ => failBecause "assignment to no place".toList

/-- Calls a function that is defined. -/
def call (p : Setting) : Nat → Text → List Expr → Act Datum
  | 0, _, _ => throw .halted
  | fuel + 1, name, arguments => do
      match Table.get? p.functions name with
      | none => failBecause ("function ".toList ++ name ++ " never defined".toList)
      | some f =>
          if f.parameters.length < arguments.length then
            failBecause ("too many arguments in call to ".toList ++ name)
          let slots ← arguments.mapM fun e => do
            match e with
            | .name n =>
                let fresh : Act Slot := do
                  let k ← newArray
                  putSlot n (.either k)
                  return .either k
                match ← slot? n with
                | some (.plain .unset) => fresh
                | some slot => return slot
                | none => fresh
            | e => return .plain (← eval p fuel e)
          let missing := List.replicate (f.parameters.length - slots.length) (Slot.plain .unset)
          let before := (← get).locals
          modify fun r => { r with locals := f.parameters.zip (slots ++ missing) }
          finally' (givenBack (exec p fuel f.body)) fun r => { r with locals := before }

/-- Applies one of the functions that are there without being defined. -/
def apply (p : Setting) : Nat → Function → List Expr → Act Datum
  | 0, _, _ => throw .halted
  | fuel + 1, f, arguments => do
      let text (e : Expr) : Act Text := do textOf (← eval p fuel e)
      let number (e : Expr) : Act Float := do return (← eval p fuel e).numeric
      let whole (e : Expr) : Act Int := do return wholeOf (← number e)
      let computed (g : Float → Float) (e : Expr) : Act Datum := do return .number (g (← number e))
      let wrong : Act Datum := failBecause "wrong number of arguments".toList
      match f, arguments with
      | .length, [] => return ofNat (← textOf (← get).record).length
      | .length, [.name n] =>
          match ← slot? n with
          | some (.array k) => return ofNat (← elements k).entries.size
          | some (.either k) => return ofNat (← elements k).entries.size
          | _ => return ofNat (← text (.name n)).length
      | .length, [e] => return ofNat (← text e).length
      | .part, [e, start] =>
          let t ← text e
          return .text (partOf t (← whole start) none)
      | .part, [e, start, count] =>
          let t ← text e
          let n ← whole start
          return .text (partOf t n (some (← whole count)))
      | .index, [e, mark] =>
          let t ← text e
          let mark ← text mark
          match Text.splitFirst mark t with
          | some (before, _) => return ofNat (before.length + 1)
          | none => return .number 0
      | .split, e :: .name array :: rest =>
          let t ← text e
          let cut : Option Cut ← match rest with
            | [] => pure (Cut.ofText? (← globalText "FS"))
            | [.regular r] => pure (some (.fitting r))
            | separator :: _ => pure (Cut.ofText? (← text separator))
          match cut with
          | none => failBecause "regular expression compile failed".toList
          | some cut =>
              let pieces := cut.pieces t
              let n ← arrayOf array
              setElements n (pieces.map .ofInput)
              return ofNat pieces.length
      | .split, _ => wrong
      | .replace isForAll, pattern :: by' :: target =>
          let r ← regularOf p fuel pattern
          let by' ← text by'
          let target ← targetOf p fuel (target.head?.getD (.field (.number 0)))
          let t ← textOf (← target.get)
          let found := if isForAll then r.findAll true t (t.length + 2) 0 none
            else (r.find? true t 0).toList
          if !found.isEmpty then target.put (.text (withReplaced t by' 0 found))
          return ofNat found.length
      | .place, [e, pattern] =>
          let t ← text e
          let r ← regularOf p fuel pattern
          let (start, length) : Datum × Datum := match r.find? true t 0 with
            | some f => (ofNat (f.start + 1), ofNat (f.stop - f.start))
            | none => (.number 0, .number (-1))
          setGlobal "RSTART" start
          setGlobal "RLENGTH" length
          return start
      | .format, e :: values =>
          let format ← text e
          let values ← values.mapM (eval p fuel)
          match ← formatted format values with
          | (t, none) => return .text t
          | (_, some fault) => failBecause fault
      | .small, [e] => return .text ((← text e).map Char.toLower)
      | .capital, [e] => return .text ((← text e).map Char.toUpper)
      | .sine, [e] => computed Float.sin e
      | .cosine, [e] => computed Float.cos e
      | .exponential, [e] => computed Float.exp e
      | .logarithm, [e] => computed Float.log e
      | .root, [e] => computed Float.sqrt e
      | .whole, [e] => computed truncatedFloat e
      | .arctangent, [e, e'] =>
          let x ← number e
          return .number (Float.atan2 x (← number e'))
      | .chance, _ =>
          let r ← get
          let next := State.nextRandom r.seed
          set { r with seed := next }
          return .number (Float.ofNat (next % 1000003) / 1000003)
      | .seed, arguments =>
          let given ← match arguments with
            | e :: _ => number e
            | [] => pure (Float.ofInt (← get).state.seconds)
          let before := (← get).seedGiven
          modify fun r => { r with seedGiven := given, seed := (wholeOf given).natAbs + 1 }
          return .number before
      | .system, [e] =>
          let command ← text e
          flush
          change (p.runners.shell command)
          return .number (Float.ofInt (← get).state.status)
      | .close, [e] => return .number (Float.ofInt (← closeName p.runners (← text e)))
      | .flush, _ =>
          flush
          return .number 0
      | .time, _ => return .number (Float.ofInt (← get).state.seconds)
      | .date, arguments =>
          let format ← match arguments with
            | e :: _ => text e
            | [] => pure "%c".toList
          let seconds ← match arguments with
            | _ :: e :: _ => whole e
            | _ => do pure (← get).state.seconds
          return .text ((Moment.ofSeconds (← get).state.zone seconds 0).written format)
      | .moment, [e] =>
          match (blankWords (← text e)).filterMap (numberIn? 10) with
          | year :: month :: day :: hour :: minute :: second :: _ =>
              let zone := (← get).state.zone
              return .number (Float.ofInt
                (86400 * Moment.days year month day + 3600 * hour + 60 * minute + second
                  - zone.offset))
          | _ => return .number (-1)
      | _, _ => wrong

/-- Carries out an action. -/
def exec (p : Setting) : Nat → Action → Act Unit
  | 0, _ => throw .halted
  | fuel + 1, a => do
      let place (e : Option Expr) : Act Text := do
        match e with
        | some e => textOf (← eval p fuel e)
        | none => return []
      let out (sink : Sink) (name t : Text) : Act Unit :=
        if sink = .output then reveal t else send sink name t
      let keyValue (keys : List Expr) : Act Text := keyOf p fuel keys
      match a with
      | .nothing => pure ()
      | .expression e =>
          let _ ← eval p fuel e
      | .print values sink e =>
          let end' ← globalText "ORS"
          let t ← match values with
            | [] => textOf (← get).record
            | values =>
                let separator ← globalText "OFS"
                let format ← globalText "OFMT"
                let texts ← values.mapM fun e => do return (← eval p fuel e).spelled format
                pure (Text.joinWith separator texts)
          out sink (← place e) (t ++ end')
      | .format values sink e =>
          match values with
          | [] => failBecause "no arguments in call to printf".toList
          | format :: values =>
              let format ← textOf (← eval p fuel format)
              let values ← values.mapM (eval p fuel)
              let (t, fault) ← formatted format values
              out sink (← place e) t
              fault.forM failBecause
      | .after first second =>
          exec p fuel first
          exec p fuel second
      | .choose c yes no =>
          if (← eval p fuel c).isTrue then exec p fuel yes else exec p fuel no
      | .whileTrue c body => untilDone do
          if (← eval p fuel c).isTrue then bodyGoesOn (exec p fuel body) else return false
      | .untilFalse body c => untilDone do
          if ← bodyGoesOn (exec p fuel body) then return (← eval p fuel c).isTrue else return false
      | .steps start c step body =>
          exec p fuel start
          untilDone do
            let holds ← match c with
              | some c => do pure (← eval p fuel c).isTrue
              | none => pure true
            if !holds then return false
            else if ← bodyGoesOn (exec p fuel body) then
              exec p fuel step
              return true
            else return false
      | .forKeys name array body =>
          let keys ← keysOf (← arrayOf array)
          let _ ← keys.foldlM (fun goes key => do
            if goes then
              setVariable name (.text key)
              bodyGoesOn (exec p fuel body)
            else return false) true
      | .delete array none =>
          let n ← arrayOf array
          setElements n []
      | .delete array (some keys) =>
          let n ← arrayOf array
          let key ← keyValue keys
          modify fun r => { r with arrays := r.arrays.modify n fun a =>
            { a with entries := a.entries.erase key } }
      | .next => throw .next
      | .nextFile => throw .nextFile
      | .exit e =>
          match e with
          | some e =>
              let n := wholeOf (← eval p fuel e).numeric
              modify fun r => { r with status := Int.emod n 256 }
          | none => pure ()
          throw .exit
      | .giveBack e =>
          match e with
          | some e => throw (.giveBack (← eval p fuel e))
          | none => throw (.giveBack .unset)
      | .leave => throw .leave
      | .goOn => throw .goOn

end

/-- How deep actions may stand inside actions. -/
def depth : Nat := 1000000

/-- A rule for records is to be carried out. -/
def meets (p : Setting) (number : Nat) (c : Condition) : Act Bool := do
  let holds (e : Expr) : Act Bool := do return (← eval p depth e).isTrue
  match c with
  | .always => return true
  | .holds e => holds e
  | .between start stop =>
      let isOpen := (← get).ranges.contains number
      if isOpen || (← holds start) then
        let isOver ← holds stop
        modify fun r => { r with ranges :=
          if isOver then r.ranges.filter (· != number)
              else number :: r.ranges.filter (· != number) }
        return true
      else return false
  | _ => return false

/-- Carries out the rules for one record. -/
def handleRecord (p : Setting) (rules : List Rule) : Act Unit := fun r =>
  let all : Act Unit := do
    for (rule, n) in rules.zipIdx do
      if ← meets p n rule.condition then exec p depth rule.action
  match all.run.run r with
  | (.error .next, r) => (.ok (), r)
  | (.error .nextFile, r) => (.ok (), { r with input := none })
  | (result, r) => (result, r)

/-- An action in which an exit ends only that part of the program; whether there was one is told. -/
def withExit (a : Act Unit) : Act Bool := fun r =>
  match a.run.run r with
  | (.error .exit, r) => (.ok true, r)
  | (.error ending, r) => (.error ending, r)
  | (.ok _, r) => (.ok false, r)

/-- Carries out a program. -/
def carryOut (p : Setting) (rules : List Rule) : Act Unit := do
  let isFirst (r : Rule) : Bool := match r.condition with | .first => true | _ => false
  let isLast (r : Rule) : Bool := match r.condition with | .last => true | _ => false
  let all (chosen : List Rule) : Act Unit := chosen.forM fun r => exec p depth r.action
  let forRecords := rules.filter fun r => !isFirst r && !isLast r
  let last := rules.filter isLast
  let hasLeft ← withExit (all (rules.filter isFirst))
  if !hasLeft && !(forRecords.isEmpty && last.isEmpty) then
    let _ ← withExit (untilDone do
      match ← nextRecord inputFuel with
      | some t =>
          setRecord t
          handleRecord p forRecords
          return true
      | none => return false)
  let _ ← withExit (all last)
  closeAll p.runners

/-- The variables that are set before anything is done. -/
def startValues : List (String × Datum) :=
  [("FS", .text [' ']), ("OFS", .text [' ']), ("RS", .text ['\n']), ("ORS", .text ['\n']),
    ("NF", .number 0), ("NR", .number 0), ("FNR", .number 0), ("SUBSEP", .text ['\x1c']),
      ("CONVFMT", .text "%.6g".toList),
    ("OFMT", .text "%.6g".toList), ("FILENAME", .text [])]

/-- The state before anything is done, with the words of the program. -/
def Running.start (s : State) (words : List Text) : Running :=
  let ofPairs (pairs : List (Text × Datum)) : Elements :=
    ⟨.ofList (pairs.zipIdx.map fun ((key, d), n) => (key, n, d)), pairs.length⟩
  let names := words.zipIdx.map fun (w, n) => (Text.ofNat n, Datum.ofInput w)
  let plain : List (Text × Slot) := startValues.map fun (name, d) => (name.toList, .plain d)
  { state := s
    globals := .ofList (plain ++
      [("ARGC".toList, .plain (ofNat words.length)), ("ARGV".toList, .array 0),
        ("ENVIRON".toList, .array 1)])
    locals := []
    arrays := #[ofPairs names, ofPairs (s.environment.map fun (name, t) => (name, .ofInput t))]
    record := .unset
    fields := #[]
    input := none
    nextWord := 1
    hasRead := false
    files := []
    commands := []
    outlets := []
    shown := []
    ranges := []
    status := 0
    seed := 12345
    seedGiven := 0 }

/-- The words in front of the program text: what is set, the text if it is in files, and what
follows. -/
structure Words where
  assigned : List Text
  texts : List Text
  rest : List Text

/-- Reads the words in front of the program text; the message says what is wrong with them, and
there may be none. -/
def Words.read : Nat → List Text → Words → Except (Option Text) Words
  | 0, _, w => .ok w
  | fuel + 1, words, w =>
      let valued (value : Text) (words : List Text) (f : Text → Words) : Except
          (Option Text) Words :=
        match value, words with
        | [], value :: words => Words.read fuel words (f value)
        | [], [] => .error (some "option lacks argument".toList)
        | value, words => Words.read fuel words (f value)
      match words with
      | ['-', '-'] :: words => .ok { w with rest := words }
      | ('-' :: 'F' :: t) :: words => valued t words fun t =>
          { w with assigned := w.assigned ++ ["FS=".toList ++ t] }
      | ('-' :: 'v' :: t) :: words => valued t words fun t =>
          { w with assigned := w.assigned ++ [t] }
      | ('-' :: 'f' :: t) :: words => valued t words fun t => { w with texts := w.texts ++ [t] }
      | ('-' :: 'W' :: t) :: words =>
          let (t, words) := if t.isEmpty then (words.headD [], words.tail) else (t, words)
          if "version".toList = t || "help".toList = t || "usage".toList = t then .error none
          else Words.read fuel words w
      | word :: words =>
          if word = "--version".toList || word = "--help".toList then .error none
          else
            match word with
            | '-' :: c :: rest =>
                .error (some ("not an option: ".toList ++ '-' :: c :: rest))
            | word => .ok { w with rest := word :: words }
      | [] => .ok w

/-- The text of a program that stands in files. -/
def programText (s : State) (paths : List Text) : Except (Text × Fault) (State × Text) :=
  paths.foldlM (fun (s, t) path =>
    if path = ['-'] then
      let (s, more) := s.readAll
      .ok (s, t ++ more ++ ['\n'])
    else
      match s.textAt path with
      | .ok (s, more) => .ok (s, t ++ more ++ ['\n'])
      | .error fault => .error (path, fault)) (s, [])

end Rules

/-- Processes records by rules. -/
def processRules : Agent := fun runners words s =>
  let who := "awk".toList
  let fail (message : Text) : State := s.complain 2 who message
  match Rules.Words.read (words.length + 1) words ⟨[], [], []⟩ with
  | .error none => s.write "mawk 1.3.4\n".toList
  | .error (some message) => fail message
  | .ok w =>
      let chosen : Except State (State × Text × List Text) :=
        if w.texts.isEmpty then
          match w.rest with
          | t :: rest => .ok (s, t, rest)
          | [] => .error ((s.mutter "Usage: awk [Options] [Program] [file ...]\n".toList).withStatus
              0)
        else
          match Rules.programText s w.texts with
          | .ok (s, t) => .ok (s, t, w.rest)
          | .error (path, fault) =>
              .error (fail ("cannot open \"".toList ++ path ++ "\" (".toList ++
                fault.message ++ [')']))
      match chosen with
      | .error s => s
      | .ok (s, t, rest) =>
          match Rules.Program.ofText t with
          | .error (line, message) =>
              s.complain 2 who ("line ".toList ++ Text.ofNat line ++ ": ".toList ++ message)
          | .ok program =>
              let setting : Rules.Setting := ⟨program.functions, runners⟩
              let act : Rules.Act Unit := do
                for word in w.assigned do
                  match Rules.assignmentWord? word with
                  | some (name, d) => Rules.setVariable name d
                  | none => Rules.failBecause ("improper assignment: -v ".toList ++ word)
                Rules.carryOut setting program.rules
              let (result, r) := act.run.run (Rules.Running.start s (who :: rest))
              match result with
              | .error (.failed message) =>
                  let (_, r) := Rules.flush.run.run r
                  r.state.complain 2 who ("run time error: ".toList ++ message)
              | _ => if r.state.isStopped then r.state else r.state.withStatus r.status

end KeyMenu.Sh
