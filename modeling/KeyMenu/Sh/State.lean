import KeyMenu.Environment
import KeyMenu.Sh.Calculation
import KeyMenu.Sh.Listing
import KeyMenu.Sh.Pattern
import KeyMenu.Sh.World

/-!
# The state of a process

What a shell or another program works on: what all processes share, the working directory and the
open streams; and for a shell variables, functions and arguments, and the status of the last
command. What stops the commands is kept until something takes it up: a loop, a function, the shell
itself or the process (`Stop`).
-/

namespace KeyMenu.Sh

/-- What stops the commands: the shell ends, the rest of a line is passed over, a process is killed,
it waits for a moment or for something to be put into a queue, a function is left, or so many loops
are left or begun anew. -/
inductive Stop
  | exited
  | passed
  | killed (process signal : Nat)
  | frozen (wakes queue : Option Nat)
  | returned
  | left (loops : Nat)
  | renewed (loops : Nat)
  deriving DecidableEq

/-- What a variable holds: one text, or several, under numbers or under any texts. -/
inductive Value
  | one (t : Text)
  | many (isKeyed : Bool) (values : Table Text)
  deriving DecidableEq

/-- A variable: what it holds, and whether it is handed to programs, may not change, takes numbers,
capitals or small letters only, or stands for another variable. -/
structure Variable where
  value : Option Value
  isExported : Bool
  isFixed : Bool
  isNumber : Bool
  isCapital : Bool
  isSmall : Bool
  isReference : Bool
  deriving DecidableEq

/-- A variable without anything. -/
def Variable.bare : Variable := ⟨none, false, false, false, false, false, false⟩

/-- A function that is running: its name, the line from which it has been called, and the arguments
of its caller. -/
structure Caller where
  name : Text
  line : Nat

/-- A command that runs beside the shell: its process, the queues from which it reads and to which
it writes, how many bytes it has been given and how many of what it writes have been put there; and
what it writes, the status with which it ends if it does, and the world, after reading a text and
perhaps the end of it. -/
structure Partner where
  process : Nat
  input : Nat
  output : Nat
  given : Option Nat
  written : Nat
  answer : Bool → Text → World → Text × Option Int × World

/-- A process that has been started without waiting for it, by the process of a number; whether its
status has been asked for already, and its command. -/
structure Job where
  process : Nat
  owner : Nat
  isKnown : Bool
  command : Text

/-- What comes of a process that runs beside others: it ends, or something goes on waiting, until a
moment or for a queue: it itself, or, where there is a status, what it has left behind. What has
been done before `doneUntil` is done, and these are its traps. -/
inductive Outcome
  | ended (status : Int)
  | waits (status : Option Int) (wakes queue : Option Nat) (doneUntil : Nat) (traps : Table Text)

/-- A process that runs beside others and waits. When it goes on it is carried out from its
beginning (`resume`), with the signals that it has been sent; what it has done already is not done
again. -/
structure Pending where
  process : Nat
  wakes : Option Nat
  queue : Option Nat
  doneUntil : Nat
  signals : List Sent
  traps : Table Text
  openings : List Nat
  resume : World → World × Outcome

/-- The state of a process. `self` is the number of the process, `process` that of the shell of
which it is a copy; `pipeStatuses` are the statuses in the last pipe, `innerStatus` is the status of
the last command inside a word, `leavingStatus` the status of a shell that a trap lets end without
saying one; `optionPlace` is the place inside a word of options; `isTested` says that a failure is
only a condition, `isLast` that nothing follows, and `isPiped` that a simple command is a part of a
pipe; `depth` counts the shells that are copies one of the other, and `level` the copies as one of
the shells counts them. `readers` are scripts that read what a command writes into open files, once
it has ended. -/
structure State where
  world : World
  dialect : Dialect
  here : Nat
  place : Text
  mask : Nat
  streams : List (Nat × Nat)
  limits : Table Text
  vars : Table Variable
  hidden : List (Table (Option Variable))
  functions : Table Command
  nicknames : Table Text
  name : Text
  arguments : List Text
  switches : List String
  process : Nat
  self : Nat
  ancestors : List Nat
  jobs : List Job
  waiting : List Pending
  traps : Table Text
  caught : List Text
  status : Int
  pipeStatuses : List Int
  innerStatus : Option Int
  leavingStatus : Option Int
  isTested : Bool
  isLast : Bool
  isPiped : Bool
  depth : Nat
  level : Nat
  loops : Nat
  calls : Nat
  callers : List Caller
  line : Nat
  sources : List Text
  partners : List Partner
  readers : List (Nat × Text)
  directories : List Text
  lastWord : Text
  optionPlace : Nat
  command : Command
  secondsFrom : Int
  stopped : Option Stop

namespace State

/-- A switch is on. -/
def isOn (s : State) (name : String) : Bool := s.switches.contains name

/-- Turns a switch on or off. -/
def turn (name : String) (on : Bool) (s : State) : State :=
  let others := s.switches.filter (· != name)
  { s with switches := if on then name :: others else others }

/-- The first command that fails ends the shell. -/
def stopsOnFailure (s : State) : Bool := s.isOn "errexit"

/-- Parameters without a value are an error. -/
def refusesUnset (s : State) : Bool := s.isOn "nounset"

/-- The commands have been stopped. -/
def isStopped (s : State) : Bool := s.stopped.isSome

/-- The last command had the given status. -/
def withStatus (n : Int) (s : State) : State := { s with status := n }

/-- The shell ends with a status. -/
def exit (n : Int) (s : State) : State := { s with status := n, stopped := some .exited }

/-- Something goes wrong that is not the command's doing. -/
def refuse (s : State) : State :=
  s.withStatus (match s.dialect with | .dash => 2 | .bash => 1)

/-- Something goes wrong with a command that one of the shells does not survive. -/
def refuseStrictly (s : State) : State :=
  match s.dialect with
  | .dash => s.exit 2
  | .bash => s.withStatus 1

/-- Something goes wrong that one of the shells does not survive; the other passes over the rest of
the line. -/
def abandon (s : State) : State :=
  match s.dialect with
  | .dash => s.exit 2
  | .bash => { s with status := 1, stopped := some .passed }

/-- A parameter has no value and should have one. -/
def abandonUnset (s : State) : State :=
  match s.dialect with
  | .dash => s.exit 2
  | .bash => s.exit (if 0 < s.depth || s.stopsOnFailure then 1 else 127)

/-- A script inside a line cannot be read. -/
def refuseText (s : State) : State :=
  s.exit (if s.dialect = .dash || s.stopsOnFailure then 2 else 127)

/-- Elements inside a line cannot be read. The line is passed over; a command that has read it by
itself only fails. -/
def refuseElements (survives : Bool) (s : State) : State :=
  if s.stopsOnFailure && !(survives && s.isTested) then s.exit 2
  else if survives then s.withStatus 1 else s.abandon

/-- There is no more room for calls. -/
def exhausted (s : State) : State := { s with stopped := some (.killed s.self 11) }

/-- What a loop makes of what stops its commands, and whether it goes on. -/
def afterRound (s : State) : State × Bool :=
  match s.stopped with
  | none => (s, true)
  | some (.left n) => ({ s with stopped := if n ≤ 1 then none else some (.left (n - 1)) }, false)
  | some (.renewed n) =>
      if n ≤ 1 then ({ s with stopped := none }, true)
      else ({ s with stopped := some (.renewed (n - 1)) }, false)
  | some _ => (s, false)

/-- The last command was no pipe. -/
def alone (s : State) : State := { s with pipeStatuses := [s.status] }

/-- What follows is only a condition where what stands around it is one. -/
def testedLike (outer s : State) : State := { s with isTested := outer.isTested }

/-- A number that decides: zero is false. -/
def decided (s : State) (n : Int) : State := s.withStatus (if n = 0 then 1 else 0)

/-! ### Streams -/

/-- The open file of a stream. -/
def opening? (s : State) (stream : Nat) : Option Nat :=
  (s.streams.find? (·.1 == stream)).map Prod.snd

/-- A stream leads to an open file. -/
def setStream (stream opening : Nat) (s : State) : State :=
  { s with streams := (stream, opening) :: s.streams.filter (·.1 != stream) }

/-- A stream leads nowhere any more. -/
def closeStream (stream : Nat) (s : State) : State :=
  { s with streams := s.streams.filter (·.1 != stream) }

/-- The process waits. -/
def isFrozen (s : State) : Bool :=
  match s.stopped with
  | some (.frozen _ _) => true
  | _ => false

/-- Writes into a stream; there is nothing if that cannot be done. -/
def writeTo? (stream : Nat) (t : Text) (s : State) : Option State :=
  if t.isEmpty || s.isFrozen then some s
  else do
    let n ← s.opening? stream
    let world ← s.world.append? n t
    return { s with world := world }

/-- Writes to the output; the command succeeds if anything can be written there. -/
def write (t : Text) (s : State) : State :=
  match s.writeTo? 1 t with
  | some s => s.withStatus 0
  | none => s.withStatus 1

/-- Writes, and keeps the status if that can be done. -/
def put (t : Text) (s : State) : State :=
  match s.writeTo? 1 t with
  | some s => s
  | none => s.withStatus 1

/-- Writes to the stream for complaints. -/
def mutter (t : Text) (s : State) : State := (s.writeTo? 2 t).getD s

/-- Writes a complaint of a command; it fails with a status. -/
def complain (n : Int) (who what : Text) (s : State) : State :=
  (s.mutter (who ++ ": ".toList ++ what ++ ['\n'])).withStatus n

/-- Writes a complaint of the shell. -/
def report (what : Text) (s : State) : State :=
  let line := if s.dialect = .bash then ": line ".toList else ": ".toList
  s.mutter (s.name ++ line ++ Text.ofNat s.line ++ ": ".toList ++ what ++ ['\n'])

/-- What is left to be read of a stream. -/
def ahead (s : State) (stream : Nat) : Text :=
  (s.opening? stream).elim [] fun n =>
    if (s.world.opening n).reads then s.world.ahead n else []

/-- Goes on by so many bytes in a stream. -/
def advance (stream count : Nat) (s : State) : State :=
  match s.opening? stream with
  | some n => { s with world := s.world.advance n count }
  | none => s

/-- What is read of a stream may also be written there by this process, so that it never ends. -/
def isLive (s : State) (stream : Nat) : Bool :=
  ((s.opening? stream).map s.world.opening).any fun o =>
    o.reads && o.writes && (o.target matches .queue _)

/-- Reads all that is left of the input; where there is no end, the process waits for it. -/
def readAll (s : State) : State × Text :=
  let t := s.ahead 0
  let after := s.advance 0 t.length
  (if s.isLive 0 then { after with stopped := some (.frozen none none) } else after, t)

/-- Gives a stream a new queue that holds a text. -/
def offer (stream : Nat) (t : Text) (s : State) : State :=
  let (world, n) := s.world.openQueue t true
  { s with world := world }.setStream stream n

/-- What is written to the output meanwhile, and the state after it with the streams as before. -/
def captured (f : State → State) (s : State) : State × Text :=
  let (world, n) := s.world.openQueue [] false
  let after := f ({ s with world := world }.setStream 1 n)
  ({ after with streams := s.streams }, after.world.ahead n)

/-! ### Variables -/

/-- The variable of a name, which may stand for another one. -/
def variableFrom? (s : State) : Nat → Text → Option (Text × Variable)
  | 0, _ => none
  | fuel + 1, name =>
      match Table.get? s.vars name with
      | none => none
      | some v =>
          match v.isReference, v.value with
          | true, some (.one target) =>
              if target = name then some (name, v) else s.variableFrom? fuel target
          | _, _ => some (name, v)

/-- The name for which a name stands in the end. -/
def meant (s : State) : Nat → Text → Text
  | 0, name => name
  | fuel + 1, name =>
      match Table.get? s.vars name with
      | some v =>
          match v.isReference, v.value with
          | true, some (.one target) => if target = name then name else s.meant fuel target
          | _, _ => name
      | none => name

/-- References lead on at most so often. -/
def referenceLimit : Nat := 8

/-- The variable of a name. -/
def variableNamed? (s : State) (name : Text) : Option Variable :=
  Table.get? s.vars (s.meant referenceLimit name)

/-- Changes the variable of a name, which need not be there yet. -/
def modify (name : Text) (f : Variable → Variable) (s : State) : State :=
  let name := s.meant referenceLimit name
  { s with vars := Table.put s.vars name (f ((Table.get? s.vars name).getD .bare)) }

/-- What a condition has found goes to this variable. -/
def matchName : Text := "BASH_REMATCH".toList

/-- Values under the numbers from zero on. -/
def numbered (values : List Text) : Table Text :=
  ((List.range values.length).map Text.ofNat).zip values

/-- The names under which switches are listed. -/
def switchNames : Dialect → List String
  | .dash => ["errexit", "noglob", "ignoreeof", "interactive", "monitor", "noexec",
      "stdin", "xtrace",
      "verbose", "vi", "emacs", "noclobber", "allexport", "notify", "nounset",
        "privileged", "nolog",
      "debug"]
  | .bash => ["allexport", "braceexpand", "emacs", "errexit", "errtrace", "functrace", "hashall",
      "histexpand", "history", "ignoreeof", "interactive-comments", "keyword",
        "monitor", "noclobber",
      "noexec", "noglob", "nolog", "notify", "nounset", "onecmd", "physical", "pipefail", "posix",
      "privileged", "verbose", "vi", "xtrace"]

/-- The names of the options that one of the shells has besides. -/
def optionNames : List String :=
  ["autocd", "assoc_expand_once", "cdable_vars", "cdspell", "checkhash", "checkjobs",
    "checkwinsize",
    "cmdhist", "compat31", "compat32", "compat40", "compat41", "compat42", "compat43", "compat44",
    "complete_fullquote", "direxpand", "dirspell", "dotglob", "execfail",
      "expand_aliases", "extdebug",
    "extglob", "extquote", "failglob", "force_fignore", "globasciiranges",
      "globskipdots", "globstar",
    "gnu_errfmt", "histappend", "histreedit", "histverify", "hostcomplete", "huponexit",
    "inherit_errexit", "interactive_comments", "lastpipe", "lithist", "localvar_inherit",
    "localvar_unset", "login_shell", "mailwarn", "no_empty_cmd_completion", "nocaseglob",
    "nocasematch", "noexpand_translation", "nullglob", "patsub_replacement", "progcomp",
    "progcomp_alias", "promptvars", "restricted_shell", "shift_verbose", "sourcepath",
    "varredir_close", "xpg_echo"]

/-- The number after another one among those that look as if they came by chance. -/
def nextRandom (n : Nat) : Nat :=
  let n := if n = 0 then 123459876 else n % 4294967296
  let next : Int := 16807 * ((n % 127773 : Nat) : Int) - 2836 * ((n / 127773 : Nat) : Int)
  ((if next < 0 then next + 2147483647 else next) % 4294967296).toNat

/-- The number below 32768 that is shown for the next one of those. -/
def randomValue (n : Nat) : Nat :=
  let next := nextRandom n
  ((next / 65536) ^^^ (next % 65536)) % 32768

/-- What a shell knows of itself, by the names of variables. -/
def known? (s : State) (name : Text) : Option Value :=
  if s.dialect = .dash then none
  else
    let one (t : Text) : Option Value := some (.one t)
    let all (ts : List Text) : Option Value := some (.many false (numbered ts))
    match String.ofList name with
    | "LINENO" => one (Text.ofNat s.line)
    | "PIPESTATUS" => all (s.pipeStatuses.map Text.ofInt)
    | "BASHPID" => one (Text.ofNat s.self)
    | "BASH_SUBSHELL" => one (Text.ofNat s.level)
    | "BASH_COMMAND" => one s.command.summary
    | "SECONDS" => one (Text.ofInt (s.world.clock / 1000000000 - s.secondsFrom))
    | "EPOCHSECONDS" => one (Text.ofInt (s.world.now / World.second))
    | "EPOCHREALTIME" => one (Text.ofInt (s.world.now / World.second) ++ ".000000".toList)
    | "RANDOM" => one (Text.ofNat (randomValue s.world.random))
    | "SRANDOM" => one (Text.ofNat s.world.random)
    | "FUNCNAME" => if s.callers.isEmpty then none
        else all (s.callers.map (·.name) ++ (if s.sources.isEmpty then [] else ["main".toList]))
    | "BASH_LINENO" => all (s.callers.map (fun c => Text.ofNat c.line) ++ [['0']])
    | "BASH_SOURCE" => if s.sources.isEmpty && s.callers.isEmpty then none
        else all (s.callers.map (fun _ => s.sources.headD "environment".toList) ++ s.sources)
    | "GROUPS" => all [['0']]
    | "DIRSTACK" => all (s.place :: s.directories)
    | "BASH_ARGV0" => one s.name
    | "SHELLOPTS" => one (Text.joinWith [':']
        (((switchNames .bash).filter s.isOn).map String.toList))
    | "BASHOPTS" => one (Text.joinWith [':'] ((optionNames.filter s.isOn).map String.toList))
    | "_" => one s.lastWord
    | _ => none

/-- What a variable holds. -/
def held? (s : State) (name : Text) : Option Value :=
  let name := s.meant referenceLimit name
  match s.known? name with
  | some value => some value
  | none => (Table.get? s.vars name).bind (·.value)

/-- Somebody has looked at a variable: one of them has another value then. -/
def lookedAt (name : Text) (s : State) : State :=
  if name = "RANDOM".toList && s.dialect = .bash then
    { s with world := { s.world with random := nextRandom s.world.random } }
  else s

/-- The value of a variable; of several ones it is the one under zero. -/
def value? (s : State) (name : Text) : Option Text :=
  match s.held? name with
  | some (.one t) => some t
  | some (.many _ values) => Table.get? values ['0']
  | none => none

/-- The values of a variable with the texts under which they stand. -/
def values? (s : State) (name : Text) : Option (Table Text) :=
  match s.held? name with
  | some (.one t) => some [(['0'], t)]
  | some (.many _ values) => some values
  | none => none

/-- A variable has its values under any texts. -/
def isKeyed (s : State) (name : Text) : Bool :=
  match s.held? name with
  | some (.many isKeyed _) => isKeyed
  | _ => false

/-- A variable may not change. -/
def isFixed (s : State) (name : Text) : Bool := (s.variableNamed? name).any (·.isFixed)

/-- The values of exported variables. -/
def environment (s : State) : Environment :=
  s.vars.filterMap fun (name, v) =>
    match v.isExported, v.value with
    | true, some (.one t) => some (name, t)
    | _, _ => none

/-- Puts a value into a variable as it stands. -/
def putValue (name value : Text) (s : State) : State :=
  let s := if s.dialect = .bash && name = "SECONDS".toList then
      { s with secondsFrom := s.world.clock / 1000000000 - ((numberIn? 10 value).getD 0) }
    else if s.dialect = .bash && name = "RANDOM".toList then
      { s with world := { s.world with
        random := (((numberIn? 10 value).getD 0) % 4294967296).toNat } }
    else if name = "OPTIND".toList then { s with optionPlace := 0 }
    else s
  s.modify name fun v =>
    let held := match v.value with
      | some (.many isKeyed values) => Value.many isKeyed (Table.put values ['0'] value)
      | _ => .one value
    { v with value := some held, isExported := v.isExported || s.isOn "allexport" }

/-- Puts values into a variable. -/
def putValues (name : Text) (isKeyed : Bool) (values : Table Text) (s : State) : State :=
  s.modify name fun v => { v with value := some (.many isKeyed values) }

/-- Puts a variable to the environment. -/
def exportName (name : Text) (s : State) : State :=
  s.modify name fun v => { v with isExported := true }

/-- Gives variables values that programs are handed too. -/
def exportAll (given : List (Text × Text)) (s : State) : State :=
  given.foldl (fun s (name, value) => (s.putValue name value).exportName name) s

/-- Forgets a variable. -/
def forget (name : Text) (s : State) : State :=
  let name := s.meant referenceLimit name
  { s with vars := s.vars.filter (·.1 != name) }

/-- Hides a variable until the function that is running ends. -/
def hide (name : Text) (s : State) : State :=
  match s.hidden with
  | [] => s
  | frame :: frames =>
      if (Table.get? frame name).isSome then s
      else { s with hidden := (frame ++ [(name, Table.get? s.vars name)]) :: frames }

/-- Keeps the switches until the function that is running ends. -/
def hideSwitches (s : State) : State :=
  match s.hidden with
  | [] => s
  | frame :: frames =>
      let kept : Variable := { Variable.bare with
        value := some (.many false (numbered (s.switches.map String.toList))) }
      { s with hidden := (frame ++ [(['-'], some kept)]) :: frames }

/-- Gives hidden variables their values back, and the switches theirs. -/
def unhide (frame : Table (Option Variable)) (s : State) : State :=
  frame.foldl (fun s (name, before) =>
    match before with
    | some v => match name, v.value with
        | ['-'], some (.many _ values) =>
            { s with switches := values.map fun (_, name) => String.ofList name }
        | _, _ => { s with vars := Table.put s.vars name v }
    | none => { s with vars := s.vars.filter (·.1 != name) }) s

/-- The signs of white space that cut what is not quoted. -/
def separators (s : State) : Text := (s.value? "IFS".toList).getD [' ', '\t', '\n']

/-- Letters are code points of UTF-8 for who reads the language from these variables. -/
def isWide (s : State) : Bool :=
  let set (name : String) : Option Text := (s.value? name.toList).filter (!·.isEmpty)
  let language := ((set "LC_ALL").or ((set "LC_CTYPE").or (set "LANG"))).getD []
  let known := ["C.UTF-8", "C.utf8", "POSIX.UTF-8", "C.UTF8", "C.utf-8"]
  known.any (·.toList == language)

/-- Letters are code points for the shell itself; one of them knows only bytes. -/
def shellIsWide (s : State) : Bool := s.dialect = .bash && s.isWide

/-- How patterns are read. -/
def patternRules (s : State) : Pattern.Rules :=
  ⟨if s.dialect = .bash then ['!', '^'] else ['!'], s.dialect = .bash && s.isOn "extglob", false⟩

/-- The switches by their letters, in the order in which the letters are shown. -/
def switchLetters : Dialect → List (Char × String)
  | .dash => [('e', "errexit"), ('f', "noglob"), ('I', "ignoreeof"), ('i', "interactive"),
      ('m', "monitor"), ('n', "noexec"), ('s', "stdin"), ('x', "xtrace"), ('v', "verbose"),
      ('V', "vi"), ('E', "emacs"), ('C', "noclobber"), ('a', "allexport"), ('b', "notify"),
      ('u', "nounset"), ('p', "privileged")]
  | .bash => [('a', "allexport"), ('b', "notify"), ('e', "errexit"), ('f', "noglob"),
      ('h', "hashall"), ('i', "interactive"), ('k', "keyword"), ('m', "monitor"), ('n', "noexec"),
      ('p', "privileged"), ('r', "restricted"), ('t', "onecmd"), ('u', "nounset"),
      ('v', "verbose"), ('x', "xtrace"), ('B', "braceexpand"), ('C', "noclobber"),
      ('E', "errtrace"), ('H', "histexpand"), ('I', "invisible"), ('P', "physical"),
      ('T', "functrace"), ('c', "commandtext"), ('s', "stdin")]

/-- The letters of the switches that are on. -/
def letters (s : State) : Text :=
  ((switchLetters s.dialect).filter fun (_, name) => s.isOn name).map Prod.fst

/-- The value of a parameter. -/
def parameter? (s : State) (name : Text) : Option Text :=
  match name with
  | ['?'] => some (Text.ofInt s.status)
  | ['$'] => some (Text.ofNat s.process)
  | ['#'] => some (Text.ofNat s.arguments.length)
  | ['@'] => some (Text.joinWith [' '] s.arguments)
  | ['*'] => some (Text.joinWith (s.separators.take 1) s.arguments)
  | ['!'] => s.jobs.head?.map fun job => Text.ofNat job.process
  | ['-'] => some s.letters
  | ['0'] => some s.name
  | c :: rest =>
      if c.isDigit then
        if digitsValue (c :: rest) = 0 then some s.name
        else s.arguments[digitsValue (c :: rest) - 1]?
      else s.value? name
  | [] => none

/-! ### Shells in shells -/

/-- A copy of a shell that goes its own way: its traps are no longer set. -/
def copy (s : State) : State :=
  let self := s.world.lastProcess + 1
  { s with
    world := { s.world with lastProcess := self }
    self := self
    ancestors := s.self :: s.ancestors
    traps := s.traps.filter fun (name, action) => action.isEmpty ||
      (name == "ERR".toList && s.isOn "errtrace") ||
      ((name == "DEBUG".toList || name == "RETURN".toList) && s.isOn "functrace")
    caught := []
    readers := []
    leavingStatus := none
    isLast := false
    isPiped := false
    depth := s.depth + 1
    level := s.level + 1 }

/-- A process that a shell starts. -/
def child (s : State) : State :=
  let self := s.world.lastProcess + 1
  { s with
    world := { s.world with lastProcess := self }
    process := self
    self := self
    ancestors := s.self :: s.ancestors
    traps := s.traps.filter (·.2.isEmpty)
    caught := []
    leavingStatus := none
    isTested := false
    isLast := false
    stopped := none }

/-- A process that takes the place of a shell: it is the shell's own. -/
def replacement (s : State) : State :=
  let level := "SHLVL".toList
  let lowered := ((s.value? level).bind (number? .bash)).filter fun _ => s.dialect = .bash
  let inner := { s.child with
    world := s.world
    process := s.self
    self := s.self
    ancestors := s.ancestors }
  lowered.elim inner fun n => inner.putValue level (Text.ofInt (n - 1))

/-- The signals that do no harm: those that stop a process or let it go on, and a few that are
ignored. -/
def harmless : List Nat := [0, 17, 18, 19, 20, 21, 22, 23, 28, 32, 33]

/-- The signal to which one of the shells pays no attention. -/
def quitSignal : Nat := 3

/-- The signal that nothing stops. -/
def killSignal : Nat := 9

/-- A signal comes: a trap catches it, or it does no harm, or it ends the process. -/
def struck (signal : Nat) (s : State) : State :=
  match if signal = killSignal then none else Table.get? s.traps (Text.ofNat signal) with
  | some action =>
      { s with caught := if action.isEmpty then s.caught else s.caught ++ [action] }
  | none =>
      if harmless.contains signal || (s.dialect = .bash && signal = quitSignal) then s
      else { s with stopped := some (.killed s.self signal) }

/-- The signals that have been sent to a process come. -/
def receive (s : State) : State :=
  if s.world.sent.isEmpty then s
  else
    let isMine (m : Sent) : Bool := m.process = s.self && m.time ≤ s.world.clock
    let mine := s.world.sent.filter isMine
    let s := { s with world := { s.world with sent := s.world.sent.filter (!isMine ·) } }
    mine.foldl (fun s m => if s.isStopped then s else s.struck m.signal) s

/-- Sends a signal to a process. -/
def post (process signal : Nat) (s : State) : State :=
  let sent : Sent := ⟨process, signal, s.world.clock⟩
  { s with world := { s.world with sent := s.world.sent ++ [sent] } }

/-- What a shell keeps of another process that it has waited for: its output, its status and its
files. A process that has been killed has a status of its own; being killed itself ends the
shell, and so it does to wait. -/
def adopt (outer inner : State) : State :=
  let passed := { outer with world := inner.world, waiting := inner.waiting }
  match inner.stopped with
  | some (.killed process signal) =>
      if process = inner.self ∧ inner.self ≠ outer.self then
        (passed.withStatus (128 + signal)).receive
      else { passed with status := inner.status, stopped := some (.killed process signal) }
  | some (.frozen wakes queue) =>
      { passed with status := inner.status, stopped := some (.frozen wakes queue) }
  | _ => { passed with status := inner.status, stopped := none }.receive

/-! ### Time -/

/-- A process that waits goes on at a moment, and what comes of it is kept. -/
def resume (p : Pending) (moment : Nat) (s : State) : State :=
  let before := s.world
  let (world, outcome) := p.resume { before with
    doneUntil := p.doneUntil
    outerQueues := before.queues.size
    outerOpenings := before.openings.size
    horizon := some moment
    sent := before.sent ++ p.signals }
  let after := { world with
    clock := max before.clock moment
    lastProcess := max before.lastProcess world.lastProcess
    sent := world.sent.filter (!p.signals.contains ·)
    doneUntil := before.doneUntil
    outerQueues := before.outerQueues
    outerOpenings := before.outerOpenings
    horizon := before.horizon }
  let others := s.waiting.filter (·.process != p.process)
  match outcome with
  | .ended status => { s with
      world := { after with ended := (p.process, status) :: after.ended }
      waiting := others }
  | .waits status wakes queue doneUntil traps => { s with
      world := { after with
        ended := (status.toList.map fun status => (p.process, status)) ++ after.ended }
      waiting := others ++ [{ p with
        wakes := wakes
        queue := queue
        doneUntil := doneUntil
        traps := traps }] }

/-- The process beside this one that goes on next, up to a moment, and when; one that has waited for
a queue goes on at once when something is in it. -/
def next? (s : State) (moment : Nat) : Option (Pending × Nat) :=
  let now := s.world.clock
  let ready := s.waiting.filterMap fun p =>
    match p.wakes, p.queue with
    | some wakes, _ => if wakes ≤ moment then some (p, max wakes now) else none
    | none, some q => if (s.world.queue q).all.isEmpty then none else some (p, now)
    | none, none => none
  ready.foldl (fun best p => if best.all (p.2 < ·.2) then some p else best) none

/-- Lets time pass up to a moment; what runs beside this process goes on. -/
def passUntil (moment : Nat) : Nat → State → State
  | 0, s => s
  | fuel + 1, s =>
      match s.next? moment with
      | some (p, time) => passUntil moment fuel (s.resume p time)
      | none => { s with world := { s.world with clock := max moment s.world.clock } }

/-- Processes beside this one go on at most so often while it waits. -/
def passFuel : Nat := 2000

/-- The earliest of two moments that may be there. -/
def earlier (a b : Option Nat) : Option Nat :=
  match a, b with
  | some a, some b => some (min a b)
  | a, none => a
  | none, b => b

/-- When the first of the processes beside this one goes on. -/
def nextWake? (s : State) : Option Nat := (s.waiting.filterMap (·.wakes)).min?

/-- The process waits until a moment or for a queue, or until one of those beside it goes on. -/
def freeze (wakes queue : Option Nat) (s : State) : State :=
  { s with stopped := some (.frozen (earlier wakes s.nextWake?)
      (queue.or (s.waiting.filterMap (·.queue)).head?)) }

/-- Lets time pass up to a moment; a process whose horizon is nearer waits there. -/
def passTo (moment : Nat) (s : State) : State :=
  match s.world.horizon with
  | some horizon =>
      if horizon < moment then (s.passUntil horizon passFuel).freeze (some moment) none
      else s.passUntil moment passFuel
  | none => s.passUntil moment passFuel

/-- Lets time pass, in the smallest parts of it. -/
def pass (time : Nat) (s : State) : State := s.passTo (s.world.clock + time)

/-- A process that is carried out once more has come to where it had waited for a queue. -/
def caughtUp (s : State) : State :=
  let w := s.world
  if w.clock + 1 = w.doneUntil then
    { s with world := { w with clock := max w.doneUntil (w.horizon.getD w.doneUntil) } }
  else s

/-- A moment that never comes. -/
def never : Nat := 1000000000000000000

/-- What runs beside this process goes on until something holds, or nothing more can be done. -/
def awaitThat (holds : State → Bool) (queue : Option Nat) : Nat → State → State
  | 0, s => s
  | fuel + 1, s =>
      if holds s then s.caughtUp
      else
        match s.next? (s.world.horizon.getD never) with
        | some (p, time) => awaitThat holds queue fuel (s.resume p time)
        | none => if s.world.horizon.isSome then s.freeze none queue else s

/-- What runs beside this process goes on until something is in a queue, or nothing more can be
done. -/
def awaitQueue (q : Nat) : State → State :=
  awaitThat (fun s => !(s.world.queue q).all.isEmpty) (some q) passFuel

/-- What runs beside this process goes on until nobody has a file open any more. -/
def drain (opening : Nat) : State → State :=
  awaitThat (fun s => !s.waiting.any fun p => p.openings.contains opening) none passFuel

/-- A process goes on for ever. -/
def endless (s : State) : State := { s with stopped := some (.frozen none none) }

end State

end KeyMenu.Sh
