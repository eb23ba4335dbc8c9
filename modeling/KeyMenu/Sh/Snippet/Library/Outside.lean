import KeyMenu.Sh.Braces
import KeyMenu.Sh.Signal
import KeyMenu.Sh.Snippet.Library.Holder
import KeyMenu.Sh.Tool.Look

/-!
# Functions for files, processes and time

What snippets can do outside of themselves: files are opened, moved and removed, commands are run,
signals are sent, and time passes. A function that fails tells so and remembers the number of the
fault.
-/

namespace KeyMenu.Sh.Snippet

/-! ### Messages and endings -/

/-- The texts of arguments, one after the other. -/
def Inner.message (i : Inner) (es : List Expr) (usual : String) : Act Text := do
  let t := (← i.values es).flatMap Scalar.spelling
  return if t.isEmpty then usual.toList else t

/-- The function that is kept for a signal or a message, if there is one. -/
def handler? (name : Text) : Act (Option Nat) := do
  match ← entryAt (← cellOf '%' "SIG".toList) name with
  | .place '&' n => return some n
  | .text t => return (← get).shared['&' :: t]?
  | _ => return none

/-- Something goes wrong for good. -/
def dies : Routine := fun i _ es => do
  let values ← i.values es
  let s ← match values with
    | [.place sign n] => pure (Scalar.place sign n)
    | values => do
        let t := values.flatMap Scalar.spelling
        pure (.text (← placed (if t.isEmpty then "Died".toList else t)))
  match ← handler? "__DIE__".toList with
  | some n =>
      let _ ← callCell i n [← fresh (.scalar s)] false
      throw (.died s)
  | none => throw (.died s)

/-- Says that something may be wrong. -/
def warns : Routine := fun i _ es => do
  let t ← placed (← i.message es "Warning: something\x27s wrong")
  match ← handler? "__WARN__".toList with
  | some n =>
      let _ ← callCell i n [← fresh (.scalar (.text t))] false
      return [.ofInt 1]
  | none =>
      let _ ← writeTo "STDERR".toList t
      return [.ofInt 1]

/-- Ends the snippet. -/
def exits : Routine := fun i _ es => do
  let n ← match es.head? with
    | some e => i.int e
    | none => pure 0
  modify fun m => { m with status := n }
  throw .exited

/-! ### Processes -/

/-- Runs a command, and waits for it. -/
def runs : Routine := fun i _ es => do
  let words ← i.values es
  return [.ofInt (← runCommand i.runners (words.map Scalar.spelling))]

/-- Lets a command take the place of the snippet until an alarm comes. -/
def becomesUntil (runners : Runners) (words : List Text) (moment : Nat) (s : State) : State :=
  let outer := s.world.horizon
  if !outer.all (moment < ·) then runners.become words s
  else
    let inner := runners.become words { s with world := { s.world with horizon := some moment } }
    let restored := { inner with world := { inner.world with horizon := outer } }
    if inner.isFrozen then
      let after := { s with world := restored.world, waiting := restored.waiting }.passTo moment
      if after.isStopped then after else after.struck 14
    else restored

/-- Lets a command take the place of the snippet. -/
def becomes : Routine := fun i _ es => do
  let words := commandWords ((← i.values es).map Scalar.spelling)
  flush
  exportVariables
  if ← canRun words then
    let alarm := (← get).alarm
    change (match alarm with
      | some moment => becomesUntil i.runners words moment
      | none => i.runners.become words)
    throw .replaced
  else return [.ofBool false]

/-- A signal comes to the snippet itself; it may have been told what to do then. -/
def receives (i : Inner) (name : Text) (number : Nat) : Act Unit := do
  match ← entryAt (← cellOf '%' "SIG".toList) name with
  | .place '&' n =>
      let _ ← callCell i n [← fresh (.scalar (.text name))] false
  | .text t =>
      if t = "IGNORE".toList then pure ()
      else if t = "DEFAULT".toList then change (·.struck number)
      else
        let _ ← callName i t [← fresh (.scalar (.text name))] false
  | _ => change (·.struck number)

/-- Sends a signal; the number of processes that have got it is told. -/
def signals? : Routine := fun i _ es => do
  match ← i.values es with
  | [] => return [.ofInt 0]
  | sign :: processes =>
      let sign := sign.spelling
      let sign := if sign.head? = some '-' then sign.drop 1 else sign
      match signal? .bash sign with
      | none => die ("Unrecognized signal name \"".toList ++ sign ++ ['"'])
      | some number =>
          let name := ((signals.find? (·.2 == number)).map Prod.fst).getD sign
          let reached ← processes.mapM fun p => do
            let own := (← get).state.self
            if p.int = Int.ofNat own then
              if number ≠ 0 then receives i name number
              return true
            else
              let before := (← get).state
              change fun s => sendSignal number p.spelling { s with dialect := .bash }
              let isReached := (← get).state.status = 0
              modify fun m => { m with state :=
                { m.state with dialect := before.dialect, status := before.status } }
              return isReached
          return [.ofNat (reached.filter id).length]

/-- The thousand-millionths of a second of a number of seconds. -/
def momentsOf (x : Float) : Nat := (Float.toUInt64 (x * 1000000000.0)).toNat

/-- Lets time pass, at most until the alarm that has been set. -/
def passes (i : Inner) (time : Nat) : Act Unit := do
  let m ← get
  let last := m.state.world.clock + time
  match m.alarm with
  | some moment =>
      if moment ≤ last then
        set { m with alarm := none }
        change (·.passTo moment)
        receives i "ALRM".toList 14
      else change (·.passTo last)
  | none => change (·.passTo last)

/-- Waits for some time. -/
def sleeps : Routine := fun i _ es => do
  let n ← match es.head? with
    | some e => do pure (← i.value e).quantity.float
    | none => pure 0.0
  passes i (momentsOf n)
  return [.ofInt (wholeOf n)]

/-- Sets an alarm; the seconds that were left before the last one are told. -/
def setsAlarm : Routine := fun i _ es => do
  let x := (← i.value (firstOr es)).quantity.float
  let m ← get
  let clock := m.state.world.clock
  let left := (m.alarm.map fun moment => (moment - clock + 999999999) / 1000000000).getD 0
  set { m with alarm := if x ≤ 0 then none else some (clock + momentsOf x) }
  return [.ofNat left]

/-! ### Time -/

/-- The seconds since the beginning of 1970. -/
def timeNow : Act Int := do return (← get).state.seconds

/-- What calendar and clock show, in the order in which snippets want it. -/
def shownBy (zone : Zone) (wants : Bool) (n : Int) : List Scalar :=
  let m := Moment.ofSeconds zone n 0
  if wants then
    [m.second, m.minute, m.hour, m.day, m.month - 1].map .ofNat ++
      [.ofInt (m.year - 1900), .ofNat m.weekday, .ofNat (m.yearday - 1), .ofInt 0]
  else [.text (m.written "%a %b %e %H:%M:%S %Y".toList)]

/-- What calendar and clock show. -/
def calendar (isLocal : Bool) : Routine := fun i wants es => do
  let n ← match es.head? with
    | some e => i.int e
    | none => timeNow
  let s := (← get).state
  return shownBy (if isLocal then s.zone else .universal) wants n

/-- The moment that is given by what calendar and clock show. -/
def momentOfValues (zone : Zone) (values : List Scalar) : Moment :=
  let part (k : Nat) : Int := ((values[k]?).map Scalar.int).getD 0
  let days := Moment.days (part 5 + 1900) (part 4 + 1) 1 + part 3 - 1
  let seconds := days * 86400 + part 2 * 3600 + part 1 * 60 + part 0
  Moment.ofSeconds zone (seconds - zone.offset) 0

/-- Writes a moment by a format. -/
def writtenTime : Routine := fun i _ es => do
  match ← i.values es with
  | format :: values =>
      let m := momentOfValues (← get).state.zone values
      return [.text (m.written format.spelling)]
  | [] => return [.undefined]

/-- The seconds for what calendar and clock show. -/
def secondsOf : Routine := fun i _ es => do
  return [.ofInt (momentOfValues (← get).state.zone (← i.values es)).seconds]

/-! ### Open files -/

/-- The name of the file for which an expression stands. -/
def handleName (i : Inner) (e : Expr) : Act Text := do
  match e with
  | .text name => return name
  | .function name [] => return name
  | e =>
      match ← i.value e with
      | .place '$' n => return fileName (← scalarAt n)
      | s => return fileName s

/-- The name under which a file is opened; a variable gets one of its own. -/
def newHandle (i : Inner) (e : Expr) : Act Text := do
  match e with
  | .text name => return name
  | .function name [] => return name
  | e =>
      let n ← i.cell e
      match ← scalarAt n with
      | .undefined =>
          let name := '$' :: Text.ofNat n
          putScalar n (.file name)
          return name
      | s => return fileName s

/-- Opens a text as if it were a file. -/
def openText (name t : Text) : Act Bool := do
  let h : Handle := ⟨t, true, none, none, 0, 0⟩
  modify fun m => { m with handles := Table.put m.handles name h }
  return true

/-- Opens a file. -/
def opens : Routine := fun i _ es => do
  match es with
  | file :: mode :: rest =>
      let name ← newHandle i file
      let mode ← i.text mode
      let done ← match rest with
        | [] => openByText i.runners name mode
        | path :: words => do
            match ← i.value path with
            | .place '$' n => openText name (← scalarAt n).spelling
            | .file other => openByMode i.runners name mode other []
            | s =>
                let words ← i.values words
                openByMode i.runners name mode s.spelling (words.map Scalar.spelling)
      return [.ofBool done]
  | _ => die "Not enough arguments for open".toList

/-- Closes a file. -/
def closes : Routine := fun i _ es => do
  match es.head? with
  | some e =>
      let name ← handleName i e
      match streamOf? name with
      | some stream =>
          flush
          change (·.closeStream stream)
          return [.ofBool true]
      | none => return [.ofBool (← closeFile i.runners name)]
  | none => return [.ofBool false]

/-- A file is at its end. -/
def isAtEnd : Routine := fun i _ es => do
  let name ← match es.head? with
    | some e => handleName i e
    | none => do pure (← get).lastFile
  if name = "STDIN".toList then return [.ofBool (← inputHandle).ahead.isEmpty]
  match Table.get? (← get).handles name with
  | some h => return [.ofBool h.ahead.isEmpty]
  | none => return [.ofBool true]

/-- The next sign of a file. -/
def nextSign : Routine := fun i _ es => do
  let name ← match es.head? with
    | some e => handleName i e
    | none => pure "STDIN".toList
  let h ← if name = "STDIN".toList then some <$> inputHandle
    else pure (Table.get? (← get).handles name)
  match h with
  | none => return [.undefined]
  | some h =>
      match h.ahead with
      | [] => return [.undefined]
      | c :: rest =>
          modify fun m => { m with handles := Table.put m.handles name { h with ahead := rest } }
          return [.text [c]]

/-- Reads so many signs of a file into a variable. -/
def reads : Routine := fun i _ es => do
  match es with
  | file :: target :: count :: rest =>
      let name ← handleName i file
      let h ← if name = "STDIN".toList then some <$> inputHandle
        else pure (Table.get? (← get).handles name)
      let count := (← i.int count).toNat
      let offset ← match rest.head? with
        | some e => i.int e
        | none => pure 0
      match h with
      | none => return [.undefined]
      | some h =>
          let t := h.ahead.take count
          modify fun m => { m with
            handles := Table.put m.handles name { h with ahead := h.ahead.drop count } }
          let c ← i.cell target
          let before := (← scalarAt c).spelling
          putScalar c (.text (before.take offset.toNat ++ t))
          return [.ofNat t.length]
  | _ => die "Not enough arguments for read".toList

/-- The lines of a file: the next one, or all that are left. -/
def linesRead (i : Inner) (wants : Bool) (file : Expr) : Act (List Scalar) := do
  let name ← handleName i file
  if wants then return (← allLines name).map .text
  else
    match ← nextLine lineFuel name with
    | some t => return [.text t]
    | none => return [.undefined]

/-- Chooses where is shown what names no file; or waits, if that is all that is asked for. -/
def selects : Routine := fun i wants es => do
  match es with
  | [_, _, _, time] => sleeps i wants [time]
  | _ => return [.text "main::STDOUT".toList]

/-- The number of the stream of a file. -/
def streamNumber : Routine := fun i _ es => do
  match es.head? with
  | some e =>
      let name ← handleName i e
      match streamOf? name with
      | some n => return [.ofNat n]
      | none => return [if ((← get).handles.any (·.1 == name)) then .ofInt 3 else .undefined]
  | none => return [.undefined]

/-! ### Files by name -/

/-- Remembers why a path does not lead where it should. -/
def noting {α : Type} (r : Except Fault α) : Act (Option α) := do
  match r with
  | .ok x => return some x
  | .error fault =>
      noteFault (faultNumber fault)
      return none

/-- Lets a tool do something to a file; whether it has succeeded is told. -/
def byTool (tool : Tool) (words : List Text) : Act Bool := quietly tool ("--".toList :: words)

/-- Lets a tool do something to each file; the number of those with which it has succeeded is
told. -/
def onFiles (tool : Tool) (options : Text → List Text) : Routine := fun i _ es => do
  let values ← if es.isEmpty then i.evaluate false defaultVariable else i.values es
  let done ← values.mapM fun s => do
    let path := s.spelling
    let _ ← noting ((← get).state.inodeAt false path)
    quietly tool (options path)
  return [.ofNat (done.filter id).length]

/-- Makes a directory. -/
def makesDirectory : Routine := fun i _ es => do
  let path ← i.text (firstOr es)
  if (← get).state.has path then
    noteFault 17
    return [.ofBool false]
  else
    let _ ← noting ((← get).state.world.store.place false (← get).state.here path)
    return [.ofBool (← byTool makeDirectories [path])]

/-- Removes a directory. -/
def removesDirectory : Routine := fun i _ es => do
  let path ← i.text (firstOr es)
  match ← noting ((← get).state.inodeAt false path) with
  | none => return [.ofBool false]
  | some n =>
      let store := (← get).state.world.store
      noteFault (if !store.isDirectory n then 20 else if (store.names n).isEmpty then 0 else 39)
      return [.ofBool (← byTool removeDirectories [path])]

/-- Lets a tool make something of two paths. -/
def onPaths (tool : Tool) (options : List Text) (needsFirst : Bool) : Routine := fun i _ es => do
  match ← i.values es with
  | a :: b :: _ =>
      let found ← noting ((← get).state.inodeAt false a.spelling)
      if needsFirst && found.isNone then return [.ofBool false]
      else return [.ofBool (← quietly tool (options ++ [a.spelling, b.spelling]))]
  | _ => return [.ofBool false]

/-- Changes the working directory. -/
def goesTo : Routine := fun i _ es => do
  let path ← match es.head? with
    | some e => i.text e
    | none => do pure (((← get).state.value? "HOME".toList).getD [])
  match ← noting ((← get).state.inodeAt true path) with
  | none => return [.ofBool false]
  | some n =>
      let store := (← get).state.world.store
      if store.isDirectory n then
        change fun s => { s with here := n, place := s.world.store.pathOf n }
        return [.ofBool true]
      else
        noteFault 20
        return [.ofBool false]

/-- Changes the mode of files. -/
def changesMode : Routine := fun i _ es => do
  match ← i.values es with
  | mode :: paths =>
      let digits := inBase 8 mode.int.toNat
      let done ← paths.mapM fun p => do
        match ← noting ((← get).state.inodeAt true p.spelling) with
        | none => return false
        | some _ => quietly changeMode [digits, "--".toList, p.spelling]
      return [.ofNat (done.filter id).length]
  | [] => return [.ofInt 0]

/-- Changes the times of files. -/
def changesTimes : Routine := fun i _ es => do
  match ← i.values es with
  | accessed :: modified :: paths =>
      let now := (← get).state.world.now
      let time (s : Scalar) : Int := if s.isDefined then s.int * World.second else now
      let done ← paths.mapM fun p => do
        match ← noting ((← get).state.inodeAt true p.spelling) with
        | none => return false
        | some n =>
            change (State.changeInode n fun file =>
              { file with accessed := time accessed, modified := time modified })
            return true
      return [.ofNat (done.filter id).length]
  | _ => return [.ofInt 0]

/-- What is known of a file. -/
def factsOf (follows : Bool) : Routine := fun i wants es => do
  let path ← i.text (firstOr es)
  match ← noting ((← get).state.inodeAt follows path) with
  | none => return if wants then [] else [.ofBool false]
  | some n =>
      if !wants then return [.ofBool true]
      let s := (← get).state
      let fact (letter : Char) : Scalar := .ofInt (digitsValue (factOf s path n letter))
      let mode := (numberIn? 16 (factOf s path n 'f')).getD 0
      return ['d', 'i'].map fact ++ [.ofInt mode] ++ ['h', 'u', 'g', 't', 's', 'X', 'Y', 'Z', 'o',
        'b'].map fact

/-- Where a link leads. -/
def linkTarget : Routine := fun i _ es => do
  match ← noting ((← get).state.inodeAt false (← i.text (firstOr es))) with
  | none => return [.undefined]
  | some n =>
      match (← get).state.world.store.content n with
      | .link target => return [.text target]
      | _ =>
          noteFault 22
          return [.undefined]

/-- Changes the size of a file. -/
def resizes : Routine := fun i _ es => do
  match ← i.values es with
  | path :: size :: _ =>
      return [.ofBool (← quietly resize ["-s".toList, Text.ofInt size.int, fileName path])]
  | _ => return [.ofBool false]

/-- The files whose names fit. -/
def namesFitting : Routine := fun i wants es => do
  let t ← i.text (firstOr es)
  let s := (← get).state
  let names := (Rules.blankWords t).flatMap fun word =>
    (Word.unbraced .bash (word.map fun c => .literal false [c])).flatMap fun w =>
      let signs := Signs.plain (w.flatMap fun
        | .literal _ t => t
        | _ => [])
      (s.namesOf? signs).getD []
  return if wants then names.map .text else [(names.head?.map Scalar.text).getD .undefined]

/-- Opens a directory: its names are read like lines. -/
def opensDirectory : Routine := fun i _ es => do
  match es with
  | file :: path :: _ =>
      let name ← newHandle i file
      let path ← i.text path
      match ← noting ((← get).state.inodeAt true path) with
      | none => return [.ofBool false]
      | some n =>
          let store := (← get).state.world.store
          if store.isDirectory n then
            let names := ['.'] :: ['.', '.'] :: store.names n
            let _ ← openText name (names.flatMap fun name => name ++ ['\n'])
            return [.ofBool true]
          else
            noteFault 20
            return [.ofBool false]
  | _ => return [.ofBool false]

/-- The next name in a directory, or all that are left. -/
def nextName : Routine := fun i wants es => do
  let name ← handleName i (firstOr es)
  match Table.get? (← get).handles name with
  | none => return if wants then [] else [.undefined]
  | some h =>
      let keep (rest : Text) : Act Unit :=
        modify fun m => { m with handles := Table.put m.handles name { h with ahead := rest } }
      if wants then
        keep []
        return (splitAt '\n' h.ahead).dropLast.map .text
      else if h.ahead.isEmpty then return [.undefined]
      else
        let first := h.ahead.takeWhile (· != '\n')
        keep (h.ahead.drop (first.length + 1))
        return [.text first]

/-- A file is kept in mind as something that is asked about it. -/
def testedFile (i : Inner) (letter : Char) (e : Expr) : Act (List Scalar) := do
  if letter = 't' then return [.ofBool false]
  let path ← i.text e
  match ← noting ((← get).state.inodeAt (letter != 'l') path) with
  | none => return [.undefined]
  | some n =>
      let s := (← get).state
      let file := s.world.store.inode n
      let size := s.world.store.size n
      let kind := (KeyMenu.Sh.kindOf file size).1
      let daysSince (t : Int) : Scalar :=
        .number (.fraction (Float.ofInt (s.world.now - t) / 86400000000000.0))
      return match letter with
        | 'e' => [.ofBool true]
        | 'f' => [.ofBool (kind == '-')]
        | 'd' => [.ofBool (kind == 'd')]
        | 'l' => [.ofBool (kind == 'l')]
        | 'p' => [.ofBool (kind == 'p')]
        | 'c' => [.ofBool (kind == 'c')]
        | 'r' => [.ofBool true]
        | 'w' => [.ofBool true]
        | 'R' => [.ofBool true]
        | 'W' => [.ofBool true]
        | 'o' => [.ofBool (file.owner = 0)]
        | 'O' => [.ofBool (file.owner = 0)]
        | 'x' => [.ofBool (kind == 'd' || file.mode &&& 0o111 != 0)]
        | 'X' => [.ofBool (kind == 'd' || file.mode &&& 0o111 != 0)]
        | 's' => [if size = 0 then .ofBool false else .ofNat size]
        | 'z' => [.ofBool (size = 0)]
        | 'u' => [.ofBool (file.mode &&& 0o4000 != 0)]
        | 'g' => [.ofBool (file.mode &&& 0o2000 != 0)]
        | 'k' => [.ofBool (file.mode &&& 0o1000 != 0)]
        | 'M' => [daysSince file.modified]
        | 'A' => [daysSince file.accessed]
        | 'C' => [daysSince file.changed]
        | 'T' => [.ofBool true]
        | _ => [.ofBool false]

/-- The mask of new files. -/
def maskOf : Routine := fun i _ es => do
  let before := (← get).state.mask
  match es.head? with
  | some e =>
      let n ← i.int e
      change fun s => { s with mask := n.toNat % 512 }
      return [.ofNat before]
  | none => return [.ofNat before]

/-- The part of a path behind its last slash, without an ending. -/
def lastPart : Routine := fun i _ es => do
  match ← i.values es with
  | [] => return [.text []]
  | path :: endings =>
      let bare := (path.spelling.reverse.dropWhile (· == '/')).reverse
      let name := (bare.reverse.takeWhile (· != '/')).reverse
      let ending := (endings.map Scalar.spelling).find? fun t => t.isSuffixOf name && t != name
      return [.text (name.take (name.length - (ending.getD []).length))]

/-- The part of a path in front of its last slash. -/
def frontPart : Routine := fun i _ es => do
  let path ← i.text (firstOr es)
  let bare := (path.reverse.dropWhile (· == '/')).reverse
  let front := ((bare.reverse.dropWhile (· != '/')).dropWhile (· == '/')).reverse
  return [.text (if !front.isEmpty then front
    else if path.head? = some '/' then ['/'] else ['.'])]

/-- The working directory. -/
def workingDirectory : Routine := fun _ _ _ => do return [.text (← get).state.directory]

/-- A function that always gives the same. -/
def always (s : Scalar) : Routine := fun i _ es => do
  let _ ← i.values es
  return [s]

/-- The functions for files and processes. -/
def outsideRoutines : List (String × Routine) :=
  [("die", dies), ("warn", warns), ("croak", dies), ("confess", dies), ("carp", warns),
    ("exit", exits), ("system", runs), ("exec", becomes), ("kill", signals?), ("sleep", sleeps),
    ("time", fun _ _ _ => do return [.ofInt (← timeNow)]), ("localtime", calendar true),
    ("gmtime", calendar false), ("strftime", writtenTime), ("mktime", secondsOf), ("open", opens),
    ("close", closes), ("eof", isAtEnd), ("getc", nextSign),
    ("readline", fun i wants es => linesRead i wants (es.headD (.text argumentFile))),
    ("read", reads), ("sysread", reads),
    ("select", selects), ("fileno", streamNumber), ("binmode", always (.ofInt 1)),
    ("unlink", onFiles removeFiles fun path => ["--".toList, path]), ("mkdir", makesDirectory),
    ("rmdir", removesDirectory), ("rename", onPaths move ["-fT".toList, "--".toList] true),
    ("link", onPaths makeNames ["-T".toList, "--".toList] true),
    ("symlink", onPaths makeNames ["-sT".toList, "--".toList] false), ("chdir", goesTo),
    ("chmod", changesMode), ("utime", changesTimes), ("chown", always (.ofInt 1)),
    ("stat", factsOf true), ("lstat", factsOf false), ("readlink", linkTarget),
    ("truncate", resizes), ("glob", namesFitting), ("opendir", opensDirectory),
    ("readdir", nextName), ("closedir", closes), ("umask", maskOf), ("basename", lastPart),
    ("dirname", frontPart), ("cwd", workingDirectory), ("getcwd", workingDirectory),
    ("getppid", fun _ _ _ => do return [.ofNat (← get).state.process]),
    ("wait", always (.ofInt (-1))), ("waitpid", always (.ofInt (-1))),
    ("times", fun _ _ _ => return [.ofInt 0, .ofInt 0, .ofInt 0, .ofInt 0]),
    ("alarm", setsAlarm), ("caller", fun _ _ _ => return [])]

/-- What a function of a name does. -/
def routine? (name : Text) : Option Routine :=
  ((valueRoutines ++ holderRoutines ++ outsideRoutines).find? fun (n, _) => n.toList == name).map
    Prod.snd

end KeyMenu.Sh.Snippet
