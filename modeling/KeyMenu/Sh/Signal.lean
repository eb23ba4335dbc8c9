import KeyMenu.Sh.State

/-!
# Signals

The signals that end a process, and how a shell sends and catches them. A signal reaches a shell
only between commands: what a trap says is kept until then (`State.caught`).
-/

namespace KeyMenu.Sh

/-- The signals by name. -/
def signals : List (Text × Nat) :=
  [("HUP".toList, 1), ("INT".toList, 2), ("QUIT".toList, 3), ("ILL".toList, 4),
    ("TRAP".toList, 5), ("ABRT".toList, 6), ("BUS".toList, 7), ("FPE".toList, 8),
    ("KILL".toList, 9), ("USR1".toList, 10), ("SEGV".toList, 11), ("USR2".toList, 12),
    ("PIPE".toList, 13), ("ALRM".toList, 14), ("TERM".toList, 15), ("STKFLT".toList, 16),
    ("CHLD".toList, 17), ("CONT".toList, 18), ("STOP".toList, 19), ("TSTP".toList, 20),
    ("TTIN".toList, 21), ("TTOU".toList, 22), ("URG".toList, 23), ("XCPU".toList, 24),
    ("XFSZ".toList, 25), ("VTALRM".toList, 26), ("PROF".toList, 27), ("WINCH".toList, 28),
    ("IO".toList, 29), ("PWR".toList, 30), ("SYS".toList, 31)]

/-- The highest number of a signal. -/
def lastSignal : Nat := 64

/-- The signal that one of the shells knows only by its number. -/
def stackFault : Nat := 16

/-- The number of a signal, which is given by number or by name. -/
def signal? (dialect : Dialect) (t : Text) : Option Nat :=
  match number? dialect t with
  | some n => if 0 ≤ n ∧ n ≤ lastSignal then some n.toNat else none
  | none =>
      let name := t.map Char.toUpper
      let name := if dialect = .bash ∧ "SIG".toList.isPrefixOf name then name.drop 3 else name
      let known := if dialect = .dash then signals.filter (·.2 != stackFault) else signals
      if name = "EXIT".toList then some 0 else (known.find? (·.1 == name)).map (·.2)

/-- The name under which the trap of a signal is kept. -/
def trapName (signal : Nat) : Text := Text.ofNat signal

/-- The job for which a sign after a percent sign stands. -/
def State.jobAt? (s : State) (t : Text) : Option Job :=
  let jobs := s.jobs.filter (!·.isKnown)
  match t with
  | [] => jobs.head?
  | ['%'] => jobs.head?
  | ['+'] => jobs.head?
  | ['-'] => (jobs.drop 1).head?
  | digits => if digits.all Char.isDigit then
      (if digitsValue digits = 0 then none else s.jobs.reverse[digitsValue digits - 1]?)
    else none

/-- A process that runs beside this one gets a signal: a trap catches it, or it does no harm, or it
ends the process. -/
def State.strikePending (p : Pending) (signal : Nat) (s : State) : State :=
  let others := s.waiting.filter (·.process != p.process)
  let action := if signal = State.killSignal then none
    else Table.get? p.traps (trapName signal)
  match action with
  | some [] => s
  | some _ => { s with waiting := others ++ [{ p with
      wakes := some s.world.clock
      signals := p.signals ++ [⟨p.process, signal, s.world.clock⟩] }] }
  | none =>
      if State.harmless.contains signal then s
      else { s with
        world := { s.world with ended := (p.process, 128 + (signal : Int)) :: s.world.ended }
        waiting := others }

/-- Sends a signal to a process that is given by its number. -/
def sendSignal (signal : Nat) (process : Text) (s : State) : State :=
  let given : Option Nat := match process with
    | '%' :: job => (s.jobAt? job).map (·.process)
    | process => (number? s.dialect process).map Int.natAbs
  match given with
  | none => s.refuse
  | some target =>
      if target = s.self || target = 0 then { (s.withStatus 0).struck signal with status := 0 }
      else if s.process = target || s.ancestors.contains target then
        (s.post target signal).withStatus 0
      else
        match s.waiting.find? (·.process == target) with
        | some p => (s.strikePending p signal).withStatus 0
        | none =>
            match s.jobs.find? (·.process == target), s.partners.find? (·.process == target) with
            | some job, _ => s.withStatus (if s.dialect = .bash || job.isKnown then 1 else 0)
            | none, some _ => { s with
                status := 0
                partners := s.partners.filter (·.process != target)
                world := { s.world with
                  ended := (target, 128 + (signal : Int)) :: s.world.ended } }
            | none, none => s.withStatus (if target = 1 ∧ signal = 0 then 0 else 1)

/-- Sends a signal to several processes. -/
def sendSignals (signal : Nat) (processes : List Text) (s : State) : State :=
  if processes.isEmpty then s.withStatus 2
  else
    let (s, isDone) := processes.foldl (fun (s, isDone) process =>
      if s.isStopped then (s, isDone)
      else
        let s := sendSignal signal process s
        (s, isDone && s.status = 0)) (s, true)
    if isDone || s.isStopped then s else s.withStatus s.status

/-- What a list of signals says about one: its name for its number, or, if the shell knows that, its
number for its name. -/
def signalText? (dialect : Dialect) (t : Text) : Option Text :=
  match number? dialect t with
  | some n =>
      let n := if 128 < n then n - 128 else n
      if n = 0 then some "EXIT".toList else (signals.find? (·.2 == n.toNat)).map Prod.fst
  | none => if dialect = .bash then (signal? dialect t).map Text.ofNat else none

/-- The command that sends signals. Without a process it only tells how it is used. -/
def kill (words : List Text) (s : State) : State :=
  let send (sign : Text) (processes : List Text) : State :=
    match signal? s.dialect sign with
    | some signal =>
        let processes :=
          if processes.head? = some "--".toList then processes.tail else processes
        sendSignals signal processes s
    | none => s.refuse
  let list (numbers : List Text) : State :=
    if numbers.isEmpty then
      s.write (signals.flatMap fun (name, n) => Text.ofNat n ++ ") SIG".toList ++ name ++ ['\n'])
    else
      let texts := numbers.map (signalText? s.dialect)
      let s := s.write (texts.flatMap fun t => (t.map (· ++ ['\n'])).getD [])
      if texts.all (·.isSome) then s else if s.dialect = .bash then s.withStatus 1 else s.refuse
  match words with
  | [] => s.withStatus 2
  | ['-', '-'] :: processes => sendSignals 15 processes s
  | ['-', 'l'] :: numbers => list numbers
  | ['-', 'L'] :: numbers => if s.dialect = .bash then list numbers else s.withStatus 2
  | ['-', 's'] :: sign :: processes => send sign processes
  | ['-', 's'] :: [] => s.refuse
  | ['-', 'n'] :: sign :: processes =>
      if s.dialect = .bash then send sign processes else s.refuse
  | ('-' :: sign) :: processes =>
      if s.dialect = .dash && processes.head? = some "--".toList then s.refuse
      else send sign processes
  | processes => sendSignals 15 processes s

/-- The events besides signals for which one of the shells has traps. -/
def events : List String := ["ERR", "DEBUG", "RETURN"]

/-- The name under which a trap is kept, from what a command calls it. -/
def trapKey? (dialect : Dialect) (name : Text) : Option Text :=
  if dialect = .bash && events.contains (String.ofList (name.map Char.toUpper)) then
    some (name.map Char.toUpper)
  else (signal? dialect name).map trapName

/-- The command that sets a trap again. -/
def trapText (dialect : Dialect) (key action : Text) : Text :=
  let name := match numberIn? 10 key with
    | some 0 => "EXIT".toList
    | some n => (if dialect = .bash then "SIG".toList else []) ++
        (((signals.find? (·.2 == n.toNat)).map Prod.fst).getD key)
    | none => key
  "trap -- ".toList ++ '\x27' :: action.flatMap (fun c =>
    if c = '\x27' then "\x27\\\x27\x27".toList else [c]) ++ "\x27 ".toList ++ name ++ ['\n']

/-- Sets what happens when signals come, or when the shell ends. -/
def trap (words : List Text) (s : State) : State :=
  let set (s : State) (action : Option Text) (name : Text) : State :=
    match trapKey? s.dialect name, action with
    | none, _ => s.withStatus 1
    | some key, some action => { s with traps := Table.put s.traps key action }
    | some key, none => { s with traps := s.traps.filter (·.1 != key) }
  let show' (keep : Text → Bool) : State :=
    s.write ((s.traps.filter fun (key, _) => keep key).flatMap fun (key, action) =>
      trapText s.dialect key action)
  match if words.head? = some "--".toList then words.tail else words with
  | [] => show' fun _ => true
  | [['-', 'l']] => kill [['-', 'l']] s
  | ['-', 'p'] :: names =>
      show' fun key => names.isEmpty || names.any fun name => trapKey? s.dialect name == some key
  | [name] =>
      let after := set (s.withStatus 0) none name
      if s.dialect = .bash && after.status ≠ 0 then s.withStatus 2 else after
  | ['-'] :: names => names.foldl (fun s name => set s none name) (s.withStatus 0)
  | action :: names =>
      if (number? s.dialect action).isSome then
        (action :: names).foldl (fun s name => set s none name) (s.withStatus 0)
      else names.foldl (fun s name => set s (some action) name) (s.withStatus 0)

end KeyMenu.Sh
