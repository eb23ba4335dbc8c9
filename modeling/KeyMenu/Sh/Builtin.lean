import KeyMenu.Sh.Builtin.Directory
import KeyMenu.Sh.Builtin.Input
import KeyMenu.Sh.Builtin.Setting
import KeyMenu.Sh.Builtin.Waiting
import KeyMenu.Sh.Condition

/-!
# What a shell knows by itself

The commands of a shell that need no other command: conditions, output, variables, switches, jobs
and what leads out of loops and functions. `builtin?` gives those of a shell by name.
-/

namespace KeyMenu.Sh

/-- The condition command; in brackets the last word closes them. -/
def condition (inBrackets : Bool) : Tool := fun words s =>
  let who : Text := if inBrackets then ['['] else "test".toList
  if inBrackets && words.getLast? ≠ some [']'] then s.fail 2 who "missing ]".toList
  else
    let words := if inBrackets then words.dropLast else words
    match s.test words with
    | .senseless =>
        let isNumeric := words.any isNumeric
        s.fail 2 who (if isNumeric then "integer expression expected"
          else if 4 < words.length then "too many arguments" else "unexpected operator").toList
    | verdict => s.withStatus verdict.status

/-! ### Leaving -/

/-- The highest exit status that can be asked for. -/
def Dialect.lastStatus : Dialect → Int
  | .dash => 2147483647
  | .bash => 9223372036854775807

/-- The lowest exit status that can be asked for. -/
def Dialect.firstStatus : Dialect → Int
  | .dash => 0
  | .bash => -9223372036854775808

/-- The status that a word asks for. -/
def askedStatus? (dialect : Dialect) (word : Text) : Option Int :=
  (number? dialect word).filter fun n => dialect.firstStatus ≤ n && n ≤ dialect.lastStatus

/-- The wording of a word that is no number. -/
def numberFault (dialect : Dialect) (word : Text) : Text :=
  match dialect with
  | .dash => "Illegal number: ".toList ++ word
  | .bash => word ++ ": numeric argument required".toList

/-- Ends the shell. -/
def exit : Tool := fun words s =>
  match afterDashes s.dialect words with
  | [] => s.exit (s.leavingStatus.getD s.status)
  | code :: more =>
      match askedStatus? s.dialect code with
      | some n => if isTooMuch s.dialect more then
          (s.blame "exit".toList "too many arguments".toList).abandon else s.exit (n % 256)
      | none => (s.blame "exit".toList (numberFault s.dialect code)).exit 2

/-- Leaves a function or a text that has been read in; outside of both one of the shells ends. -/
def leave : Tool := fun words s =>
  let leaving (n : Int) : State :=
    if 0 < s.calls then { s with status := n, stopped := some .returned }
    else
      match s.dialect with
      | .dash => s.exit n
      | .bash => s.fail 2 "return".toList
          "can only \x60return\x27 from a function or sourced script".toList
  match afterDashes s.dialect words with
  | [] => leaving s.status
  | code :: more =>
      match askedStatus? s.dialect code, s.dialect with
      | some n, .dash => leaving n
      | some n, .bash => if more.isEmpty then leaving (n % 256) else s.abandon
      | none, .dash => (s.blame "return".toList (numberFault .dash code)).exit 2
      | none, .bash => leaving 2

/-- Leaves loops or begins them anew. -/
def loopControl (stop : Nat → Stop) : Tool := fun words s =>
  let leaving (n : Nat) : State :=
    if s.loops = 0 then s.withStatus 0
    else { s with status := 0, stopped := some (stop (min n s.loops)) }
  match afterDashes s.dialect words with
  | [] => leaving 1
  | count :: more =>
      match number? s.dialect count, s.dialect with
      | some n, dialect =>
          if isTooMuch dialect more then s.abandon
          else if 0 < n then leaving n.toNat
          else if dialect = .dash then s.exit 2
          else if s.loops = 0 then s.withStatus 0
          else { s with status := 1, stopped := some (.left s.loops) }
      | none, .dash => s.exit 2
      | none, .bash => if s.loops = 0 then s.withStatus 0 else s.exit 128

/-! ### Knowledge of oneself -/

/-- Tells how much time has been used: none. -/
def times : Tool := fun _ s =>
  let line := if s.dialect = .dash then "0m0.000000s 0m0.000000s\n" else "0m0.000s 0m0.000s\n"
  s.write (line.toList ++ line.toList)

/-- Tells by whom the function that is running has been called. -/
def caller : Tool := fun words s =>
  let depth := (words.head?.bind (numberIn? 10)).map Int.toNat
  let source := s.sources.headD s.name
  let place := depth.getD 0
  match s.callers[place]? with
  | none => s.withStatus 1
  | some c =>
      let above := ((s.callers[place + 1]?).map (·.name)).getD "main".toList
      s.write (Text.ofNat c.line ++ ' ' :: (match depth with
        | some _ => above ++ ' ' :: source
        | none => source) ++ ['\n'])

/-- The words that fit what is being completed. -/
def completions : Tool := fun words s =>
  let (options, operands) := optionsFirst "oAGWFCXPS".toList words
  let start := operands.headD []
  let ofKind : List Text := match optionValue? options 'A' with
    | some kind => match String.ofList kind with
        | "function" => s.functions.names
        | "variable" => s.vars.names
        | "alias" => s.nicknames.names
        | _ => []
    | none => []
  let has (c : Char) : Bool := options.any (·.1 == c)
  let ofFiles := if has 'f' || has 'd' then
      (s.world.store.names s.here).filter fun name => !has 'd' || s.hasDirectory name
    else []
  let listed := ((optionValue? options 'W').map fun t =>
    (t.splitBy fun a b => !s.separators.contains a && !s.separators.contains b).filter
      fun part => !part.all s.separators.contains).getD []
  let all := listed ++ ofKind ++ (if has 'v' then Text.sorted s.vars.names else []) ++
    (if has 'a' then s.nicknames.names else []) ++ ofFiles
  let found := all.filter fun t => start.isPrefixOf t
  if found.isEmpty then s.withStatus 1 else s.write (found.flatMap (· ++ ['\n']))

/-! ### Names -/

/-- The commands that are programs as well as known to a shell. -/
def shared : List (Text × Tool) :=
  [("true".toList, constant 0), ("false".toList, constant 1), ("echo".toList, echo),
    ("test".toList, condition false), (['['], condition true),
    ("kill".toList, kill), ("pwd".toList, showDirectory)]

/-- The commands that both shells know. -/
def common : List (Text × Tool) :=
  shared ++
    [("printf".toList, format), ([':'], constant 0), ("exit".toList, exit),
      ("return".toList, leave), ("break".toList, loopControl .left),
      ("continue".toList, loopControl .renewed),
      ("cd".toList, changeDirectory), ("read".toList, readLine), ("export".toList, exportNames),
      ("readonly".toList, fixNames), ("local".toList, localNames), ("unset".toList, unset),
      ("set".toList, setSwitches), ("shift".toList, shift), ("getopts".toList, nextOption),
      ("umask".toList, mask), ("ulimit".toList, limits), ("times".toList, times),
      ("trap".toList, trap), ("wait".toList, wait), ("jobs".toList, showJobs),
      ("fg".toList, fun _ s => (s.blame "fg".toList "no job control".toList).refuse),
      ("bg".toList, fun _ s => (s.blame "bg".toList "no job control".toList).refuse),
      ("alias".toList, nickname), ("unalias".toList, forgetNickname)]

/-- The commands that only one of the shells knows. -/
def further : List (Text × Tool) :=
  [("let".toList, calculateAll), ("declare".toList, declareNames),
    ("typeset".toList, declareNames), ("shopt".toList, setOptions),
    ("pushd".toList, pushDirectory), ("popd".toList, popDirectory), ("dirs".toList, showPile),
    ("mapfile".toList, readLines), ("readarray".toList, readLines), ("caller".toList, caller),
    ("disown".toList, disown), ("compgen".toList, completions)]

/-- The commands that one of the shells knows and that do nothing here. -/
def quiet : List (Text × Tool) :=
  [("history".toList, constant 0), ("bind".toList, constant 0), ("complete".toList, constant 0),
    ("compopt".toList, constant 1), ("suspend".toList, constant 1), ("logout".toList, constant 1),
    ("fc".toList, constant 0)]

/-- The commands by which a shell runs others, or tells what commands are. -/
def runners (dialect : Dialect) : List Text :=
  (["eval", "exec", ".", "command", "type", "hash"] ++
    if dialect = .bash then ["source", "builtin", "enable", "help"] else []).map String.toList

/-- The names of all commands of one of the shells. -/
def builtinNames (dialect : Dialect) : List Text :=
  Text.sorted ((if dialect = .bash then common ++ further ++ quiet else common).map Prod.fst ++
    runners dialect)

/-- A command that a shell knows by itself. -/
def builtin? (dialect : Dialect) (name : Text) : Option Tool :=
  Table.get? (if dialect = .bash then common ++ further ++ quiet else common) name

/-- The options of commands by their letters, where others are a mistake. -/
def optionLetters : Dialect → List (String × String)
  | .dash => [(".", ""), ("cd", "LP"), ("export", "p"), ("readonly", "p"), ("read", "pr"),
      ("hash", "rv"), ("umask", "S"), ("unalias", "a"), ("unset", "vf"), ("wait", ""),
      ("jobs", "lp"), ("command", "pvV"), ("pwd", "LP"), ("printf", ""), ("trap", ""),
      ("getopts", ""), ("ulimit", "HSatfdsmcnlpvwr")]
  | .bash => [(".", ""), ("source", ""), ("builtin", ""), ("cd", "PLe@"), ("export", "fnpa"),
      ("declare", "aAfFgiIlnrtuxp"), ("typeset", "aAfFgiIlnrtuxp"), ("local", "aAiIlnrtuxp"),
      ("readonly", "aAfp"), ("mapfile", "dnOstuCc"),
      ("read", "ersaidnNptu"), ("hash", "dlrpt"), ("type", "afptP"), ("umask", "pS"),
      ("unalias", "a"), ("alias", "p"), ("unset", "fvn"), ("wait", "fnp"), ("jobs", "lnprsx"),
      ("command", "pvV"), ("exec", "cla"), ("shopt", "pqsuo"), ("trap", "lp"), ("getopts", ""),
      ("times", ""), ("history", "cdanrwps"), ("pwd", "LP"), ("printf", "v"), ("eval", ""),
      ("enable", "afnpsd"), ("disown", "ahr"), ("help", "dms"), ("bind", "lpsvPSVXmfqurx"),
      ("compgen", "abcdefgjksuvoAGWFCXPS"), ("complete", "abcdefgjksuvprDEIoAGWFCXPS"),
      ("readarray", "dnOstuCc"), ("suspend", "f"),
      ("ulimit", "SHabcdefiklmnpqrstuvxPRT")]

/-- The first word is an option that the command does not know. One of the shells answers a question
for help in the same way. -/
def isMisused (dialect : Dialect) (name : Text) (words : List Text) : Bool :=
  let known := (optionLetters dialect).find? (·.1.toList == name)
  let answers := ["true", "false", ":", "echo", "test", "["].any (·.toList == name)
  match words.head? with
  | some ('-' :: c :: letters) =>
      if dialect = .bash && !answers && c :: letters = "-help".toList then true
      else
        known.any fun (_, letter) =>
          c :: letters ≠ ['-'] && !letter.toList.contains c
  | _ => false

/-- The commands after which variables that were given to them alone stay. -/
def isLasting (name : Text) : Bool :=
  [":", ".", "break", "continue", "eval", "exec", "exit", "export", "readonly", "return", "set",
    "shift", "times", "trap", "unset", "local"].any (·.toList == name)

/-- A command has been given an option that it does not know. -/
def State.misused (name : Text) (s : State) : State :=
  let s := s.blame name "invalid option".toList
  if s.dialect = .dash && isLasting name then s.exit 2 else s.withStatus 2

end KeyMenu.Sh
