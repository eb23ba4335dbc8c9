import KeyMenu.Sh.Field
import KeyMenu.Sh.Output
import KeyMenu.Sh.Signal
import KeyMenu.Sh.Tool.Basic

/-!
# Programs that run programs

The programs whose words end in the command of another program: with other variables, with words
from the input, for a limited time, or just detached (`wrappers`).
-/

namespace KeyMenu.Sh

/-- The status of a program that cannot make sense of its words. -/
def senseless : Int := 125

/-- A program that has options in front of a command. -/
def commanded (name letters : String) (long : List String) (misuse : Int)
    (f : Given → State → State) : Tool := fun words s =>
  match Given.ofWords ⟨letters, long, true⟩ words with
  | .ok g =>
      if g.hasLong "help" || g.hasLong "version" then s.write (name.toList ++ ['\n'])
      else f g (s.withStatus 0)
  | .error message => s.complain misuse name.toList message

/-! ### Variables -/

/-- The words of a text between blanks, where quotes and backslashes protect blanks. -/
def quotedWords : Nat → Option Text → Text → List Text
  | 0, begun, _ => begun.toList
  | _ + 1, begun, [] => begun.toList
  | fuel + 1, begun, c :: rest =>
      if isBlankSign c then begun.toList ++ quotedWords fuel none rest
      else if c = '\\' then quotedWords fuel (some (begun.getD [] ++ rest.take 1)) rest.tail
      else if c = '\x27' || c = '"' then
        quotedWords fuel (some (begun.getD [] ++ rest.takeWhile (· != c)))
          (rest.dropWhile (· != c)).tail
      else quotedWords fuel (some (begun.getD [] ++ [c])) rest

/-- The words behind the options that split a text into words. -/
def splitWords : Nat → List Text → List Text
  | 0, words => words
  | _ + 1, [] => []
  | fuel + 1, word :: words =>
      let spread (text : Text) (words : List Text) : List Text :=
        splitWords fuel (quotedWords (text.length + 1) none text ++ words)
      match word, words with
      | ['-', 'S'], text :: words => spread text words
      | '-' :: 'S' :: c :: text, words => spread (c :: text) words
      | '-' :: 'v' :: 'S' :: c :: text, words => spread (c :: text) words
      | word, words =>
          match Text.splitFirst "--split-string=".toList word with
          | some ([], text) => spread text words
          | _ =>
              if word.head? = some '-' && word ≠ ['-'] && word ≠ ['-', '-'] then
                word :: splitWords fuel words
              else word :: words

/-- Changes variables, and shows them or runs a program. -/
def environmentOf : Agent := fun r words =>
  commanded "env" "0iu:C:vS:" ["null=0", "ignore-environment=i", "unset=u", "chdir=C", "debug=v",
    "split-string=S", "block-signal?", "default-signal?", "ignore-signal?", "list-signal-handling"]
    senseless (fun g s =>
    let isBare := g.has 'i' || g.operands.head? = some ['-']
    let operands := if g.operands.head? = some ['-'] then g.operands.tail else g.operands
    let s := if isBare then { s with vars := [] } else s
    let s := (g.values 'u').foldl (fun s name => s.forget name) s
    let given := (operands.takeWhile (·.contains '=')).filterMap (Text.splitFirst ['='])
    let s := { s with vars := given.foldl (fun vars (name, value) => Table.put vars name
      { Variable.bare with value := some (.one value), isExported := true }) s.vars }
    let command := operands.dropWhile (·.contains '=')
    let ignored := (g.options.filter (·.1 == "ignore-signal".toList)).flatMap fun (_, t) =>
      (splitAt ',' t).filterMap (signal? .bash)
    let s := { s with traps := ignored.foldl (fun traps n =>
      Table.put traps (trapName n) []) s.traps }
    let moved : Except Fault State := match g.value? 'C' with
      | none => .ok s
      | some place =>
          match s.inodeAt true place with
          | .ok n =>
              if s.world.store.isDirectory n then
                .ok { s with here := n, place := s.world.store.pathOf n }
              else .error .notADirectory
          | .error fault => .error fault
    match moved, command with
    | .error fault, _ => s.failOver senseless "env".toList "cannot change directory to ".toList
        ((g.value? 'C').getD []) fault
    | .ok s, [] =>
        if (g.value? 'C').isSome then
          s.complain senseless "env".toList "must specify command with --chdir (-C)".toList
        else s.write (s.environment.flatMap fun (name, value) =>
          name ++ '=' :: value ++ [if g.has '0' then '\x00' else '\n'])
    | .ok s, command =>
        if g.has '0' then
          s.complain senseless "env".toList "cannot specify --null (-0) with command".toList
        else r.become command s) (splitWords 20 words)

/-! ### Words from the input -/

/-- Words in groups of a size. -/
def grouped (size : Nat) : Nat → List Text → List (List Text)
  | 0, _ => []
  | _ + 1, [] => []
  | fuel + 1, words => words.take size :: grouped size fuel (words.drop size)

/-- A text takes the place of another one wherever it stands. -/
def replaced (place value : Text) : Nat → Text → Text
  | 0, t => t
  | fuel + 1, t =>
      match Text.splitFirst place t with
      | some (before, after) => before ++ value ++ replaced place value fuel after
      | none => t

/-- The words of the input between signs that separate them; there is nothing where a quote is
open. -/
def inputWords? (separates : Char → Bool) : Nat → Option Text → Text → Option (List Text)
  | 0, begun, _ => some begun.toList
  | _ + 1, begun, [] => some begun.toList
  | fuel + 1, begun, c :: rest =>
      if separates c then (inputWords? separates fuel none rest).map (begun.toList ++ ·)
      else if c = '\\' then
        inputWords? separates fuel (some (begun.getD [] ++ rest.take 1)) rest.tail
      else if c = '\x27' || c = '"' then
        let inside := rest.takeWhile fun d => d != c && d != '\n'
        match rest.drop inside.length with
        | d :: rest =>
            if d = c then inputWords? separates fuel (some (begun.getD [] ++ inside)) rest else none
        | [] => none
      else inputWords? separates fuel (some (begun.getD [] ++ [c])) rest

/-- The lines of the input, without blanks at their beginnings. -/
def inputLines? (input : Text) : Option (List Text) :=
  let lines := (textLines input).map (·.dropWhile isBlankSign)
  inputWords? (· == '\n') (input.length + 1) none (lines.flatMap (· ++ ['\n']))

/-- The status of a program that runs others, from the status of one of them, and whether it goes
on. -/
def statusOfEach (before after : Int) : Int × Bool :=
  if after = 0 then (before, true)
  else if after = 255 then (124, false)
  else if after = 126 ∨ after = 127 then (after, false)
  else if 128 < after then (125, false)
  else (123, true)

/-- Runs commands one after the other, with nothing to read. -/
def runEach (r : Runners) (shows : Bool) (commands : List (List Text)) (s : State) : State :=
  let (world, n) := s.world.addOpening ⟨.nothing, 0, true, false, false⟩
  let streams := s.streams
  let s := { s with world := world }.setStream 0 n
  let (s, _) := commands.foldl (fun (s, goes) words =>
    if !goes || s.isStopped then (s, false)
    else
      let s := if shows then s.mutter (Text.joinWith [' '] words ++ ['\n']) else s
      let before := s.status
      let after := r.call words s
      let (status, goes) := statusOfEach before after.status
      (after.withStatus status, goes)) (s.withStatus 0, true)
  { s with streams := streams }

/-- Makes commands of the words of the input, and runs them. -/
def handOn : Agent := fun r =>
  commanded "xargs" "0a:d:E:e?I:i?L:l?n:P:prs:tx" ["null=0", "arg-file=a", "delimiter=d", "eof=e",
    "replace=i", "max-lines=l", "max-args=n", "max-procs=P", "interactive=p", "no-run-if-empty=r",
    "max-chars=s", "verbose=t", "exit=x", "open-tty=o", "show-limits"] 1 fun g s =>
  let command := if g.operands.isEmpty then ["echo".toList] else g.operands
  let delimiter := if g.has '0' then some '\x00'
    else (g.value? 'd').bind fun t => ((decoded true t).1).head?
  let place := match g.last? "IiLln" with
    | some 'I' => g.value? 'I'
    | some 'i' => some (match g.value? 'i' with
        | some [] => "\x7b\x7d".toList
        | some t => t
        | none => "\x7b\x7d".toList)
    | _ => none
  let atOnce := (g.value? 'n').bind (numberIn? 10)
  let lineCount := match g.value? 'L', g.value? 'l' with
    | some t, _ => (numberIn? 10 t).map Int.toNat
    | none, some [] => some 1
    | none, some t => (numberIn? 10 t).map Int.toNat
    | none, none => none
  let gathered : Except Fault (State × Text) := match g.value? 'a' with
    | some path => s.textAt path
    | none => .ok s.readAll
  if (g.has 'n' && atOnce.all (· < 1)) || ((g.has 'L' || g.has 'l') && lineCount.all (· = 0)) then
    s.complain 1 "xargs".toList "invalid number for option".toList
  else
    match gathered with
    | .error fault => s.failOver 1 "xargs".toList "Cannot open input file ".toList
        ((g.value? 'a').getD []) fault
    | .ok (s, input) =>
        let stop := (g.value? 'E').or (g.value? 'e')
        let untilStop (words : List Text) : List Text := match stop with
          | some (c :: t) => words.takeWhile (· != c :: t)
          | _ => words
        let parts? : Option (List Text) := match delimiter, place with
          | some sign, _ => some (piecesEndedBy sign input)
          | none, some _ => inputLines? input
          | none, none => (inputWords? isBlankSign (input.length + 1) none input).map untilStop
        match parts? with
        | none => s.complain 1 "xargs".toList "unmatched quote".toList
        | some parts =>
            let commands : List (List Text) := match place, lineCount with
              | some place, _ => parts.map fun part =>
                  command.map fun w => replaced place part (w.length + 1) w
              | none, some n =>
                  let lines := (textLines input).filter fun line => !line.all isBlankSign
                  (grouped n lines.length lines).map fun group => command ++
                    group.flatMap fun line =>
                    (inputWords? isBlankSign (line.length + 1) none line).getD []
              | none, none =>
                  if parts.isEmpty then if g.has 'r' then [] else [command]
                  else (grouped ((atOnce.map Int.toNat).getD parts.length) parts.length parts).map
                    (command ++ ·)
            runEach r (g.has 't') commands s

/-! ### Limited time -/

/-- Runs a program for a limited time. -/
def limitTime : Agent := fun r =>
  commanded "timeout" "fk:ps:v" ["foreground=f", "kill-after=k", "preserve-status=p", "signal=s",
    "verbose=v"] senseless fun g s =>
  match g.operands, (g.value? 's').elim (some 15) (signal? .bash) with
  | time :: command :: words, some signal =>
      match duration? time with
      | none => s.complain senseless "timeout".toList ("invalid time interval ".toList ++
          inQuotes time)
      | some 0 => r.become (command :: words) s
      | some limit =>
          let moment := s.world.clock + limit
          let outer := s.world.horizon
          let isNearer := outer.all (moment < ·)
          let inner := r.become (command :: words) { s.child with
            world := { s.child.world with horizon := if isNearer then some moment else outer } }
          let restored := { inner with world := { inner.world with horizon := outer } }
          if inner.isFrozen && isNearer then
            let after := { s with world := restored.world, waiting := restored.waiting }
            let after := after.passTo moment
            if after.isStopped then after
            else if signal = State.killSignal then
              { after with stopped := some (.killed s.self signal) }
            else after.withStatus (if g.has 'p' then 128 + (signal : Int) else 124)
          else
            let after := s.adopt restored
            match inner.stopped with
            | some (.killed process signal) =>
                if process = inner.self then { after with stopped := some (.killed s.self signal) }
                else after
            | _ => after
  | _, none => s.complain senseless "timeout".toList "invalid signal".toList
  | _, _ => s.complain senseless "timeout".toList "missing operand".toList

/-! ### Other programs -/

/-- Another program takes its place, or there is none and it ends with a status. -/
def takePlace (r : Runners) (none : Int) (words : List Text) (s : State) : State :=
  if words.isEmpty then s.withStatus none else r.become words s

/-- Runs a program with another priority. -/
def prioritize : Agent := fun r words s =>
  let words := match words with
    | ('-' :: c :: rest) :: words =>
        if (c :: rest).all Char.isDigit || (c = '-' && rest.head?.any Char.isDigit) then
          "-n".toList :: (c :: rest) :: words
        else ('-' :: c :: rest) :: words
    | words => words
  commanded "nice" "n:" ["adjustment=n"] senseless (fun g s =>
    if (g.value? 'n').any fun t => (number? .bash t).isNone then
      s.complain senseless "nice".toList "invalid adjustment".toList
    else if g.operands.isEmpty && !g.has 'n' then s.write "0\n".toList
    else takePlace r senseless g.operands s) words s

/-- Runs a program that no lost connection ends. -/
def detach : Agent := fun r =>
  commanded "nohup" "" [] senseless fun g s =>
    takePlace r senseless g.operands { s with traps := Table.put s.traps ['1'] [] }

/-- Runs a program behind options that change nothing here. -/
def plainly (name letters : String) (long : List String) (misuse : Int) : Agent := fun r =>
  commanded name letters long misuse fun g s => takePlace r misuse g.operands s

/-- Runs a program while a file is locked. -/
def lockFile : Agent := fun r =>
  commanded "flock" "c:eE:Fnosuw:x" ["command=c", "exclusive=x",
    "conflict-exit-code=E", "nonblock=n",
    "nb=n", "close=o", "no-fork=F", "shared=s", "unlock=u", "wait=w", "timeout=w", "verbose"] 64
    fun g s =>
  match g.operands with
  | [] => s.complain 64 "flock".toList "not enough arguments".toList
  | file :: command =>
      let text? := match command with
        | ['-', 'c'] :: text :: _ => some text
        | _ => g.value? 'c'
      let isStream := file.all Char.isDigit && command.isEmpty && text?.isNone
      if isStream then s.withStatus (if (s.opening? (digitsValue file)).isSome then 0 else 65)
      else
        match s.openAt file ⟨true, false, false, false, true, false⟩ with
        | .error fault => s.failOver 66 "flock".toList "cannot open lock file ".toList file fault
        | .ok (s, _) =>
            match text? with
            | some text => r.shell text s
            | none => if command.isEmpty then s.complain 64 "flock".toList "no command".toList
                else r.call command s

/-- The programs that run others, by name. -/
def wrappers : List (String × Agent) :=
  [("env", environmentOf), ("xargs", handOn), ("timeout", limitTime), ("nice", prioritize),
    ("nohup", detach), ("flock", lockFile),
    ("setsid", plainly "setsid" "cfw" ["ctty=c", "fork=f", "wait=w"] 1),
    ("stdbuf", plainly "stdbuf" "i:o:e:" ["input=i", "output=o", "error=e"] senseless),
    ("ionice", plainly "ionice" "c:n:tp:P:u:" ["class=c", "classdata=n", "ignore=t"] 1),
    ("chrt", fun r words => plainly "chrt" "abfiorRv" ["batch=b", "fifo=f", "idle=i", "other=o",
      "rr=r"] 1 r (words.filter fun w => !w.all Char.isDigit)),
    ("taskset", fun r words s => match words with
      | ['-', 'c'] :: _ :: words => takePlace r 1 words s
      | _ :: words => takePlace r 1 words s
      | [] => s.withStatus 1),
    ("setarch", plainly "setarch" "BF3LRSTXZv" [] 1), ("linux64", plainly "linux64" "R" [] 1),
    ("setpriv", plainly "setpriv" "" ["no-new-privs", "clear-groups", "reuid:", "regid:"] 127),
    ("prlimit", plainly "prlimit" "p:n?c?d?f?l?m?s?t?u?v?" ["nofile?", "core?", "pid=p"] 1)]

end KeyMenu.Sh
