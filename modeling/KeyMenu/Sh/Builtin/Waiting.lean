import KeyMenu.Sh.Builtin.Basic
import KeyMenu.Sh.Signal

/-!
# Waiting for processes

A shell waits for the processes that it has started beside itself (`waitFor`), for all of them or
for the next one that ends. A signal for which there is a trap ends the waiting.
-/

namespace KeyMenu.Sh

namespace State

/-- The status of a process that has ended. -/
def endStatus? (s : State) (process : Nat) : Option Int :=
  (s.world.ended.find? (·.1 == process)).map Prod.snd

/-- When the next signal comes that is on its way to this process. -/
def nextSignal? (s : State) : Option Nat :=
  ((s.world.sent.filter (·.process == s.self)).map (·.time)).min?

/-- Waits until something holds, and gives the number of the signal that has come first, if one
has. -/
def awaiting (isDone : State → Bool) : Nat → State → State × Option Nat
  | 0, s => (s, none)
  | fuel + 1, s =>
      let due := s.world.sent.find? fun m => m.process = s.self && m.time ≤ s.world.clock
      match due with
      | some m =>
          let before := s.caught.length
          let after := s.receive
          if after.isStopped || before < after.caught.length then (after, some m.signal)
          else awaiting isDone fuel after
      | none =>
          if isDone s then (s.caughtUp, none)
          else
            let limit := s.world.horizon.getD never
            match s.next? limit, s.nextSignal? with
            | some (p, time), some signal =>
                if time ≤ signal then awaiting isDone fuel (s.resume p time)
                else awaiting isDone fuel (s.passUntil signal 1)
            | some (p, time), none => awaiting isDone fuel (s.resume p time)
            | none, some signal => if signal ≤ limit
                then awaiting isDone fuel (s.passUntil signal 1)
                else (s.freeze (some signal) none, none)
            | none, none =>
                if s.world.horizon.isSome then (s.freeze none none, none) else (s.endless, none)

/-- The process that a word names: a number, or a job. -/
def processOf? (s : State) (word : Text) : Option Nat :=
  match word with
  | '%' :: job => (s.jobAt? job).map (·.process)
  | word => (number? s.dialect word).map Int.toNat

/-- A process has been started by this shell. -/
def isOwn (s : State) (process : Nat) : Bool :=
  s.jobs.any (fun job => job.process == process && job.owner == s.self) ||
    s.partners.any (·.process == process)

/-- The status of a process has been asked for. -/
def know (process : Nat) (s : State) : State :=
  { s with jobs := s.jobs.map fun job =>
    if job.process = process then { job with isKnown := true } else job }

/-- Waits for one process, and has its status. -/
def waitFor (process : Nat) (s : State) : State :=
  if !s.isOwn process then s.withStatus 127
  else
    let isDone (s : State) : Bool := (s.endStatus? process).isSome
    let (s, signal) := s.awaiting isDone passFuel
    match signal with
    | some n => s.withStatus (128 + n)
    | none => if s.isStopped then s
        else (s.know process).withStatus ((s.endStatus? process).getD 127)

/-- Waits for all processes. -/
def waitForAll (s : State) : State :=
  let own := (s.jobs.filter (·.owner == s.self)).map (·.process)
  let isDone (s : State) : Bool := own.all fun p => (s.endStatus? p).isSome
  let (s, signal) := s.awaiting isDone passFuel
  match signal with
  | some n => s.withStatus (128 + n)
  | none => if s.isStopped then s else
      { s with status := 0, jobs := s.jobs.map fun job => { job with isKnown := true } }

/-- Waits for the next process that ends. -/
def waitForNext (among : List Nat) (s : State) : State × Option Nat :=
  let open' (s : State) : List Nat :=
    ((s.jobs.filter fun job => !job.isKnown && job.owner = s.self &&
      (among.isEmpty || among.contains job.process)).map
      (·.process)).reverse
  if (open' s).isEmpty then (s.withStatus 127, none)
  else
    let isDone (s : State) : Bool := (open' s).any fun p => (s.endStatus? p).isSome
    let (s, signal) := s.awaiting isDone passFuel
    match signal, (open' s).find? fun p => (s.endStatus? p).isSome with
    | some n, _ => (s.withStatus (128 + n), none)
    | none, some p => ((s.know p).withStatus ((s.endStatus? p).getD 127), some p)
    | none, none => (s.withStatus 127, none)

end State

/-- Waits for jobs. -/
def wait : Tool := fun words s =>
  let (options, operands) := if s.dialect = .bash then optionsFirst ['p'] words
    else ([], if words.head? = some "--".toList then words.tail else words)
  let variableNamed? := optionValue? options 'p'
  if options.any (·.1 == 'n') then
    let (s, process) := s.waitForNext (operands.filterMap s.processOf?)
    match variableNamed?, process with
    | some name, some p => s.putValue name (Text.ofNat p)
    | _, _ => s
  else if operands.isEmpty then s.waitForAll
  else
    operands.foldl (fun s word =>
      if s.isStopped || 128 < s.status && !s.caught.isEmpty then s
      else
        match s.processOf? word with
        | some p =>
            let s := s.waitFor p
            match variableNamed? with
            | some name => s.putValue name (Text.ofNat p)
            | none => s
        | none =>
            if word.head? = some '%' then s.withStatus 127
            else (s.blame "wait".toList
              (word ++ ": not a pid or valid job spec".toList)).refuse) (s.withStatus 0)

/-- Tells about jobs. -/
def showJobs : Tool := fun words s =>
  let (letters, operands) := lettersFirst words
  let jobs := (s.jobs.reverse.zipIdx).filter fun (job, _) => !job.isKnown
  let jobs := if operands.isEmpty then jobs
    else jobs.filter fun (job, _) => operands.any fun t => s.processOf? t == some job.process
  let isOver (job : Job) : Bool := (s.endStatus? job.process).isSome
  let jobs := jobs.filter fun (job, _) =>
    (!letters.contains 'r' || !isOver job) && !letters.contains 's'
  let line (job : Job) (n : Nat) : Text :=
    if letters.contains 'p' then Text.ofNat job.process ++ ['\n']
    else
      let state := match s.endStatus? job.process with
        | some 0 => "Done".toList
        | some n => "Exit ".toList ++ Text.ofInt n
        | none => "Running".toList
      let mark := if (s.jobs.head?.any (·.process == job.process)) then '+' else ' '
      '[' :: Text.ofNat (n + 1) ++ [']', mark, ' ', ' '] ++ state ++
        List.replicate (24 - state.length) ' ' ++ job.command ++
        (if isOver job then [] else " &".toList) ++ ['\n']
  let after := s.write (jobs.flatMap fun (job, n) => line job n)
  if operands.any fun t => (s.processOf? t).all (!s.isOwn ·) then s.withStatus 1
  else
    { after with jobs := after.jobs.map fun job =>
      if !letters.contains 'p' && isOver job then { job with isKnown := true } else job }

/-- A job no longer belongs to the shell. -/
def disown : Tool := fun words s =>
  let (letters, operands) := lettersFirst words
  if letters.contains 'a' || letters.contains 'r' then { s with jobs := [], status := 0 }
  else if operands.isEmpty then
    match s.jobs with
    | [] => s.fail 1 "disown".toList "current: no such job".toList
    | _ :: jobs => { s with jobs := if letters.contains 'h' then s.jobs else jobs, status := 0 }
  else
    operands.foldl (fun s word =>
      match s.processOf? word with
      | some p => if s.isOwn p then
            { s with jobs := s.jobs.filter fun job => letters.contains 'h' || job.process ≠ p }
          else s.withStatus 1
      | none => s.withStatus 1) (s.withStatus 0)

end KeyMenu.Sh
