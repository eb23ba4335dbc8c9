import KeyMenu.Sh.Regular.Reader
import KeyMenu.Sh.Snippet.Scalar
import KeyMenu.Sh.Tool.File
import Std.Data.HashMap

/-!
# Snippets at work

What variables hold lies in cells, so that several names, items and places can share it. A `Machine`
has the cells, the names in sight, the files that are open and what has been found last; what is
done with it may end early (`Ending`), and `Act` threads both.
-/

namespace KeyMenu.Sh.Snippet

/-- What lies in a cell: a scalar, the cells of a list, the cells of a table by their keys, or a
function with the names that it sees; without them it sees those of the whole snippet. -/
inductive Cell
  | scalar (s : Scalar)
  | list (items : Array Nat)
  | table (entries : Table Nat)
  | function (inSight : Option (Table Nat)) (body : List Statement)

/-- An open file: what is left to be read, where is written to, what has been written for a command,
how many lines have been read, and the status of what has been read. -/
structure Handle where
  ahead : Text
  reads : Bool
  opening : Option Nat
  command : Option (Text × List Text)
  count : Nat
  status : Int

/-- Who hands over the files that are named: they may be changed in place, under a name that is
kept, and what is to be written into the one at hand. -/
structure Changing where
  suffix : Text
  path : Option Text
  written : List Text

/-- The state of a snippet that is carried out. -/
structure Machine where
  state : State
  cells : Array Cell
  shared : Std.HashMap Text Nat
  inSight : Table Nat
  base : Table Nat
  depth : Nat
  saved : List (Text × Option Nat)
  handles : Table Handle
  found : Option (Text × Found × Table Nat)
  places : Std.HashMap Nat Nat
  flipped : List Nat
  shown : List Text
  endings : List (List Statement)
  offset : Nat
  program : Text
  wantsList : Option Bool
  errorNumber : Nat
  lastFile : Text
  hasRead : Bool
  changing : Option Changing
  seed : Nat
  alarm : Option Nat
  status : Int

/-- How something ends early: a loop or a function is left, something has gone wrong, the snippet is
over, another program has taken its place, or there is nothing more to be done. -/
inductive Ending
  | leave (how : Leaving) (label : Text) (values : List Scalar)
  | died (s : Scalar)
  | exited
  | replaced
  | halted

/-- What is done with a machine, and may end early. -/
abbrev Act := ExceptT Ending (StateM Machine)

/-! ### Cells and names -/

/-- A new cell. -/
def fresh (c : Cell) : Act Nat := do
  let m ← get
  set { m with cells := m.cells.push c }
  return m.cells.size

/-- What lies in a cell. -/
def cellAt (n : Nat) : Act Cell := do return ((← get).cells[n]?).getD (.scalar .undefined)

/-- Puts something into a cell. -/
def putCell (n : Nat) (c : Cell) : Act Unit :=
  modify fun m => { m with cells := m.cells.setIfInBounds n c }

/-- The scalar in a cell. -/
def scalarAt (n : Nat) : Act Scalar := do
  match ← cellAt n with
  | .scalar s => return s
  | _ => return .undefined

/-- Puts a scalar into a cell. -/
def putScalar (n : Nat) (s : Scalar) : Act Unit :=
  modify fun m => { m with
    cells := m.cells.setIfInBounds n (.scalar s)
    places := m.places.erase n }

/-- The items of a list in a cell. -/
def itemsAt (n : Nat) : Act (Array Nat) := do
  match ← cellAt n with
  | .list items => return items
  | _ => return #[]

/-- The entries of a table in a cell. -/
def entriesAt (n : Nat) : Act (Table Nat) := do
  match ← cellAt n with
  | .table entries => return entries
  | _ => return []

/-- An empty cell for a sign. -/
def emptyCell : Char → Cell
  | '@' => .list #[]
  | '%' => .table []
  | _ => .scalar .undefined

/-- The cell of a name. -/
def cellOf (sign : Char) (name : Text) : Act Nat := do
  let m ← get
  let key := sign :: name
  match (Table.get? m.inSight key).or m.shared[key]? with
  | some n => return n
  | none =>
      let n ← fresh (emptyCell sign)
      modify fun m => { m with shared := m.shared.insert key n }
      return n

/-- Gives a name a cell of its own, as far as it is in sight. -/
def declare (sign : Char) (name : Text) : Act Nat := do
  let n ← fresh (emptyCell sign)
  modify fun m =>
    let inSight := (sign :: name, n) :: m.inSight
    { m with inSight := inSight, base := if m.depth = 0 then inSight else m.base }
  return n

/-- Gives a name a cell of its own, or the shared one; what stands behind a mark in the name of a
shared one only tells it apart from others. -/
def ownCell (isShared : Bool) (sign : Char) (name : Text) : Act Nat := do
  if isShared then
    let n ← cellOf sign name
    let bare := name.takeWhile (· != '#')
    modify fun m => { m with inSight := (sign :: bare, n) :: m.inSight }
    return n
  else declare sign name

/-- Gives a shared name another cell until the block ends. -/
def putAside (sign : Char) (name : Text) : Act Nat := do
  let key := sign :: name
  let before := (← get).shared[key]?
  let n ← fresh (emptyCell sign)
  modify fun m => { m with shared := m.shared.insert key n, saved := (key, before) :: m.saved }
  return n

/-- The scalar of a shared name. -/
def sharedScalar (name : String) : Act Scalar := do
  match (← get).shared['$' :: name.toList]? with
  | some n => scalarAt n
  | none => return .undefined

/-- Sets the scalar of a shared name. -/
def setShared (name : String) (s : Scalar) : Act Unit := do
  match (← get).shared['$' :: name.toList]? with
  | some n => putScalar n s
  | none =>
      let n ← fresh (.scalar s)
      modify fun m => { m with shared := m.shared.insert ('$' :: name.toList) n }

/-- Does something, and gives the names in sight and those put aside back whatever comes of it. -/
def inScope {α : Type} (a : Act α) : Act α := fun m =>
  let (result, after) := a.run.run { m with depth := m.depth + 1 }
  let count := after.saved.length - m.saved.length
  let shared := (after.saved.take count).foldl (fun shared (key, before) =>
    match before with
    | some n => shared.insert key n
    | none => shared.erase key) after.shared
  (result, { after with
    inSight := m.inSight, depth := m.depth, shared := shared, saved := after.saved.drop count })

/-- Does something, and tells how it has ended. -/
def attempted {α : Type} (a : Act α) : Act (Except Ending α) := fun m =>
  let (result, after) := a.run.run m
  (.ok result, after)

/-- Repeats a step as long as it says so. -/
def repeatWhile (step : Act Bool) : Nat → Machine → Except Ending Unit × Machine
  | 0, m => (.error .halted, m)
  | n + 1, m =>
      match step.run.run m with
      | (.ok true, m) => repeatWhile step n m
      | (.ok false, m) => (.ok (), m)
      | (.error ending, m) => (.error ending, m)

/-- So many rounds take longer than anyone waits. -/
def roundFuel : Nat := 1000000000

/-- Repeats a step as long as it says so. -/
def untilDone (step : Act Bool) : Act Unit := fun m => repeatWhile step roundFuel m

/-! ### Faults -/

/-- The number of the line that is being carried out. -/
def Machine.line (m : Machine) : Nat := (m.program.take m.offset).count '\n' + 1

/-- A message with the place where it arises, unless it ends its line. -/
def placed (message : Text) : Act Text := do
  if message.getLast? = some '\n' then return message
  else
    let name := (← sharedScalar "0").spelling
    return message ++ " at ".toList ++ name ++ " line ".toList ++
        Text.ofNat (← get).line ++ ".\n".toList

/-- Something has gone wrong. -/
def die {α : Type} (message : Text) : Act α := do throw (.died (.text (← placed message)))

/-- Does something to the process. -/
def change (f : State → State) : Act Unit := do
  modify fun m => { m with state := f m.state }
  if (← get).state.isStopped then throw .halted

/-- The number of a fault. -/
def faultNumber : Fault → Nat
  | .notAllowed => 1
  | .notFound => 2
  | .noDevice => 6
  | .notPermitted => 13
  | .busy => 16
  | .exists => 17
  | .notADirectory => 20
  | .isADirectory => 21
  | .invalid => 22
  | .nameTooLong => 36
  | .notEmpty => 39
  | .tooManyLinks => 40

/-- The text for the number of a fault. -/
def faultText (n : Nat) : Text :=
  let all : List Fault := [.notAllowed, .notFound, .noDevice, .notPermitted, .busy, .exists,
    .notADirectory, .isADirectory, .invalid, .nameTooLong, .notEmpty, .tooManyLinks]
  match all.find? fun f => faultNumber f = n with
  | some f => f.message
  | none =>
      if n = 0 then []
      else if n = noTerminal then "Inappropriate ioctl for device".toList
      else if n = 9 then "Bad file descriptor".toList
      else if n = 10 then "No child processes".toList
      else if n = 3 then "No such process".toList
      else "Unknown error ".toList ++ Text.ofNat n
where
  /-- What is asked of a file as if it were a terminal. -/
  noTerminal : Nat := 25

/-- Remembers the number of a fault. -/
def noteFault (n : Nat) : Act Unit := modify fun m => { m with errorNumber := n }

/-! ### Output -/

/-- Hands on what has been shown. -/
def flush : Act Unit := do
  let m ← get
  if !m.shown.isEmpty then
    set { m with shown := [] }
    change (·.put m.shown.reverse.flatten)

/-- The name of the file of a scalar. -/
def fileName (s : Scalar) : Text :=
  match s with
  | .file name => name
  | s => if "main::".toList.isPrefixOf s.spelling then s.spelling.drop 6
    else if "*main::".toList.isPrefixOf s.spelling then s.spelling.drop 7 else s.spelling

/-- Writes a text to a file that is open; whether that can be done is told. -/
def writeTo (name t : Text) : Act Bool := do
  match String.ofList name with
  | "STDOUT" =>
      match (← get).changing with
      | some c =>
          if c.path.isSome then
            modify fun m => { m with changing := some { c with written := t :: c.written } }
          else modify fun m => { m with shown := t :: m.shown }
      | none => modify fun m => { m with shown := t :: m.shown }
      return true
  | "STDERR" =>
      change fun s => (s.writeTo? 2 t).getD s
      return true
  | _ =>
      match Table.get? (← get).handles name with
      | none => return false
      | some h =>
          match h.opening, h.command with
          | some n, _ =>
              change fun s => match s.world.append? n t with
                | some world => { s with world := world }
                | none => s
              return true
          | none, some (command, parts) =>
              let h := { h with command := some (command, t :: parts) }
              modify fun m => { m with handles := Table.put m.handles name h }
              return true
          | none, none => return false

/-! ### Environment and commands -/

/-- Hands the process the variables of the table that stands for them. -/
def exportVariables : Act Unit := do
  let entries ← entriesAt (← cellOf '%' "ENV".toList)
  let given ← entries.mapM fun (name, n) => do return (name, (← scalarAt n).spelling)
  modify fun m =>
    let lost := m.state.environment.filter fun (name, _) => !given.any (·.1 == name)
    let s := lost.foldl (fun s (name, _) => s.forget name) m.state
    { m with state := s.exportAll given }

/-- Whether a command text needs a shell. -/
def needsShell (t : Text) : Bool :=
  t.any (fun c => "$&*()\x7b\x7d[]\x27\";\\|?<>~\x60\n".toList.contains c) ||
    (t.takeWhile fun c => c.isAlphanum || c == '_').length + 1 ≤ t.length &&
      (t.dropWhile fun c => c.isAlphanum || c == '_').head? = some '='

/-- The words for a command: a text goes to a shell where it needs one. -/
def commandWords (words : List Text) : List Text :=
  match words with
  | [t] =>
      if needsShell t then ["/bin/sh".toList, "-c".toList, t]
      else Rules.blankWords t
  | words => words

/-- The program of a command can be found. -/
def canRun (words : List Text) : Act Bool := do
  let s := (← get).state
  match words with
  | [] => return false
  | name :: _ =>
      match s.findProgram (s.value? "PATH".toList) name with
      | .ok _ => return true
      | .error fault =>
          noteFault (if fault = .notPermitted then 13 else 2)
          return false

/-- What a process has left, as a snippet sees it: its status, or the signal that has killed it. -/
def waitStatus (n : Int) : Int := if n < 0 then -n else n * 256

/-- Runs a command and waits for it; a signal that kills it is the status, below zero. -/
def calledBy (runners : Runners) (words : List Text) (s : State) : State :=
  let inner := runners.become words s.child
  let after := s.adopt inner
  match inner.stopped, after.stopped with
  | some (.killed _ signal), none => { after with status := -(signal : Int) }
  | _, _ => after

/-- Runs a command; its status is remembered. -/
def runCommand (runners : Runners) (words : List Text) : Act Int := do
  flush
  exportVariables
  let words := commandWords words
  if ← canRun words then
    change (calledBy runners words)
    let n := waitStatus (← get).state.status
    setShared "?" (.ofInt n)
    return n
  else
    setShared "?" (.ofInt (-1))
    return -1

/-- What a command writes; its status is remembered. -/
def outputOf (runners : Runners) (t : Text) : Act Text := do
  flush
  exportVariables
  let words := commandWords [t]
  if ← canRun words then
    let (s, out) := (← get).state.captured (calledBy runners words)
    change fun _ => s
    setShared "?" (.ofInt (waitStatus (← get).state.status))
    return out
  else
    setShared "?" (.ofInt (-1))
    return []

/-- Runs a tool on files in silence; whether it has succeeded is told. -/
def quietly (tool : Tool) (words : List Text) : Act Bool := do
  let s := (← get).state
  let after := tool words ((s.closeStream 2).withStatus 0)
  change fun _ => { after with streams := s.streams }
  return after.status = 0

/-! ### Files -/

/-- The number of a stream that processes have, by the name of its file. -/
def streamOf? (name : Text) : Option Nat :=
  match String.ofList name with
  | "STDIN" => some 0
  | "STDOUT" => some 1
  | "STDERR" => some 2
  | _ => none

/-- Gives the process another stream. -/
def redirect (stream opening : Nat) : Act Unit := do
  flush
  change (·.setStream stream opening)
  if stream = 0 then
    modify fun m => { m with handles := m.handles.filter (·.1 != "STDIN".toList) }

/-- Opens a file under a name; whether that can be done is told. -/
def openFile (name path : Text) (a : World.Access) : Act Bool := do
  match (← get).state.openAt path a with
  | .error fault =>
      noteFault (faultNumber fault)
      return false
  | .ok (s, n) =>
      let isDirectory := match (s.world.opening n).target with
        | .file inode => s.world.store.isDirectory inode
        | _ => false
      let t := if a.reads && !isDirectory then s.world.ahead n else []
      noteFault 25
      match streamOf? name with
      | some stream =>
          change fun _ => s
          redirect stream n
      | none =>
          change fun _ =>
            if a.reads && !a.writes then { s with world := s.world.advance n t.length } else s
          let h : Handle := ⟨t, a.reads, if a.writes then some n else none, none, 0, 0⟩
          modify fun m => { m with handles := Table.put m.handles name h }
      return true

/-- Opens a name for the same file as another one. -/
def openAgain (name other : Text) : Act Bool := do
  let m ← get
  let number : Option Nat := match streamOf? other with
    | some stream => m.state.opening? stream
    | none => match (numberIn? 10 other).map Int.toNat with
        | some stream => m.state.opening? stream
        | none => (Table.get? m.handles other).bind (·.opening)
  match number, streamOf? name with
  | none, _ =>
      noteFault 9
      return false
  | some n, some stream =>
      redirect stream n
      return true
  | some n, none =>
      flush
      let h : Handle := ⟨[], false, some n, none, 0, 0⟩
      modify fun m => { m with handles := Table.put m.handles name h }
      return true

/-- Opens what is said by a mode. -/
def openByMode (runners : Runners) (name mode path : Text) (words : List Text) : Act Bool := do
  let mode := mode.takeWhile fun c => c != ':' && c != ' '
  match String.ofList mode with
  | "<" => openFile name path .read
  | ">" => openFile name path .write
  | ">>" => openFile name path .append
  | ">&" => openAgain name path
  | ">>&" => openAgain name path
  | ">&=" => openAgain name path
  | "<&" => openAgain name path
  | "+<" => openFile name path { World.Access.both with creates := false }
  | "+>" => openFile name path { World.Access.both with empties := true }
  | "-|" =>
      flush
      exportVariables
      let words := commandWords (path :: words)
      if ← canRun words then
        let (s, out) := (← get).state.captured (calledBy runners words)
        change fun _ => s
        let h : Handle := ⟨out, true, none, none, 0, s.status⟩
        modify fun m => { m with handles := Table.put m.handles name h }
        return true
      else return false
  | "|-" =>
      flush
      let command := if words.isEmpty then path
        else Text.joinWith [' '] ((path :: words).map backslashQuote)
      let h : Handle := ⟨[], false, none, some (command, []), 0, 0⟩
      modify fun m => { m with handles := Table.put m.handles name h }
      return true
  | _ => die ("Unknown open() mode \x27".toList ++ mode ++ ['\x27'])

/-- Opens what a text says with its mode in front. -/
def openByText (runners : Runners) (name t : Text) : Act Bool := do
  let isBlank (c : Char) : Bool := c == ' ' || ('\t' ≤ c && c ≤ '\x0d')
  let t := ((t.dropWhile isBlank).reverse.dropWhile isBlank).reverse
  let path (rest : Text) : Text := rest.dropWhile isBlank
  match t with
  | '+' :: '<' :: rest => openByMode runners name "+<".toList (path rest) []
  | '+' :: '>' :: rest => openByMode runners name "+>".toList (path rest) []
  | '>' :: '&' :: '=' :: rest => openByMode runners name ">&".toList (path rest) []
  | '>' :: '&' :: rest => openByMode runners name ">&".toList (path rest) []
  | '>' :: '>' :: '&' :: rest => openByMode runners name ">&".toList (path rest) []
  | '>' :: '>' :: rest => openByMode runners name ">>".toList (path rest) []
  | '>' :: rest => openByMode runners name ">".toList (path rest) []
  | '<' :: rest => openByMode runners name "<".toList (path rest) []
  | '|' :: rest => openByMode runners name "|-".toList (path rest) []
  | t =>
      if t.getLast? = some '|' then
        openByMode runners name "-|".toList ((t.dropLast.reverse.dropWhile isBlank).reverse) []
      else if t = ['-'] then
        let (s, all) := (← get).state.readAll
        change fun _ => s
        let h : Handle := ⟨all, true, none, none, 0, 0⟩
        modify fun m => { m with handles := Table.put m.handles name h }
        return true
      else openByMode runners name "<".toList t []

/-- Closes a file; whether it was open is told. -/
def closeFile (runners : Runners) (name : Text) : Act Bool := do
  let m ← get
  match Table.get? m.handles name with
  | none => return false
  | some h =>
      set { m with handles := m.handles.filter (·.1 != name) }
      match h.command with
      | some (command, parts) =>
          flush
          exportVariables
          let before := (← get).state.streams
          change fun s =>
            let after := calledBy runners (commandWords [command]) (s.offer 0 parts.reverse.flatten)
            { after with streams := before }
          let n := waitStatus (← get).state.status
          setShared "?" (.ofInt n)
          return n = 0
      | none =>
          if h.reads then setShared "?" (.ofInt (waitStatus h.status))
          return h.status = 0

/-- The file that stands for the input, and those that are named. -/
def argumentFile : Text := "ARGV".toList

/-- Puts what has been written for a file that is changed in place into it. -/
def finishChange : Act Unit := do
  match (← get).changing with
  | some c =>
      match c.path with
      | some path =>
          let t := c.written.reverse.flatten
          if !c.suffix.isEmpty then
            let name := if c.suffix.contains '*' then
                c.suffix.flatMap fun d => if d = '*' then path else [d]
              else path ++ c.suffix
            match (← get).state.textAt path with
            | .ok (s, before) => change fun _ => s.save "perl" name before
            | .error _ => pure ()
          change (·.save "perl" path t)
          modify fun m => { m with changing := some { c with path := none, written := [] } }
      | none => pure ()
  | none => pure ()

/-- What is left of the input of the process. -/
def inputHandle : Act Handle := do
  match Table.get? (← get).handles "STDIN".toList with
  | some h => return h
  | none =>
      let (s, t) := (← get).state.readAll
      change fun _ => s
      let h : Handle := ⟨t, true, none, none, 0, 0⟩
      modify fun m => { m with handles := Table.put m.handles "STDIN".toList h }
      return h

/-- Goes on to the next file that is named, or to the input if none has been. -/
def nextArgument : Nat → Act Bool
  | 0 => return false
  | fuel + 1 => do
      finishChange
      let list ← cellOf '@' argumentFile
      let items ← itemsAt list
      let count := ((Table.get? (← get).handles argumentFile).map (·.count)).getD 0
      match items[0]? with
      | some n =>
          let path := (← scalarAt n).spelling
          putCell list (.list (items.extract 1 items.size))
          setShared "ARGV" (.text path)
          modify fun m => { m with hasRead := true }
          if ← openByText ⟨fun _ s => s, fun _ s => s⟩ argumentFile path then
            modify fun m => { m with
              handles := match Table.get? m.handles argumentFile with
                | some h => Table.put m.handles argumentFile { h with count := count }
                | none => m.handles
              changing := m.changing.map fun c => { c with path := some path } }
            return true
          else
            let message := "Can\x27t open ".toList ++ path ++ ": ".toList ++
              faultText (← get).errorNumber ++ ".\n".toList
            change (·.mutter message)
            nextArgument fuel
      | none =>
          if (← get).hasRead then return false
          else
            modify fun m => { m with hasRead := true }
            let h ← inputHandle
            modify fun m => { m with handles := Table.put m.handles argumentFile h }
            return true

/-- The next line of a text as a separator says, and what follows it. -/
def lineOf? (separator : Scalar) (t : Text) : Option (Text × Text) :=
  if t.isEmpty then none
  else
    match separator with
    | .undefined => some (t, [])
    | separator =>
        match separator.spelling with
        | [] =>
            let t := t.dropWhile (· == '\n')
            if t.isEmpty then none
            else
              match Text.splitFirst ['\n', '\n'] t with
              | some (line, rest) => some (line ++ ['\n', '\n'], rest.dropWhile (· == '\n'))
              | none => some (t, [])
        | mark =>
            match Text.splitFirst mark t with
            | some (line, rest) => some (line ++ mark, rest)
            | none => some (t, [])

/-- The next line of a file, or of the files that are named. -/
def nextLine : Nat → Text → Act (Option Text)
  | 0, _ => return none
  | fuel + 1, name => do
      let isArgument := name.isEmpty || name = argumentFile
      let name := if name.isEmpty then argumentFile else name
      let handle ← if name = "STDIN".toList then some <$> inputHandle
        else pure (Table.get? (← get).handles name)
      match handle with
      | none =>
          if isArgument then
            if ← nextArgument 100000 then nextLine fuel name else return none
          else return none
      | some h =>
          let separator ← sharedScalar "/"
          match lineOf? separator h.ahead with
          | some (line, rest) =>
              modify fun m => { m with
                handles := Table.put m.handles name { h with ahead := rest, count := h.count + 1 }
                lastFile := name }
              return some line
          | none =>
              if isArgument then
                if ← nextArgument 100000 then nextLine fuel name else return none
              else return none

/-- The fuel for the next line: there are no more files than that. -/
def lineFuel : Nat := 100000

/-- All lines of a file that are left. -/
def allLines (name : Text) : Act (List Text) := do
  let rec gather : Nat → List Text → Act (List Text)
    | 0, lines => return lines.reverse
    | n + 1, lines => do
        match ← nextLine lineFuel name with
        | some line => gather n (line :: lines)
        | none => return lines.reverse
  gather 10000000 []

end KeyMenu.Sh.Snippet
