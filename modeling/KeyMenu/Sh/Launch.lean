import KeyMenu.Sh.Builtin.Waiting
import KeyMenu.Sh.Condition
import KeyMenu.Sh.Listing
import KeyMenu.Sh.Parameter
import KeyMenu.Sh.Regular.Reader

/-!
# Around commands

What a shell does around the commands that it runs: it repeats some of them (`untired`), hands
programs their variables (`State.executing`), tells what it is about to do (`State.trace`), listens
to the commands beside it (`State.refresh`), and compares texts with expressions (`State.matched`).
-/

namespace KeyMenu.Sh

/-! ### Rounds -/

/-- So many rounds take so long a time. -/
def roundLimit : Nat × Nat := (20000, 250 * World.millisecond)

/-- Repeats a step as long as it says so, but only so many times; whether it would go on is told. -/
def repeated {α : Type} (step : α → α × Bool) : Nat → α → α × Bool
  | 0, a => (a, true)
  | n + 1, a =>
      match step a with
      | (b, true) => repeated step n b
      | (b, false) => (b, false)

/-- Repeats a step; after many rounds something else is done before it goes on. -/
def untired {α : Type} (step rest : α → α × Bool) : Nat → α → α
  | 0, a => (rest a).1
  | n + 1, a =>
      match repeated step roundLimit.1 a with
      | (b, false) => b
      | (b, true) =>
          match rest b with
          | (b, true) => untired step rest n b
          | (b, false) => b

/-- A loop that goes on for longer than so many times the longest row of rounds never ends. -/
def tireLimit : Nat := 100

/-- One of the shells lets functions call each other only so often. -/
def callLimit : Nat := 1000

/-- The output of a command without the line ends after it, and without null bytes. -/
def withoutLineEnds (t : Text) : Text :=
  ((t.reverse.dropWhile (· == '\n')).reverse).filter (· != '\x00')

/-- The options by which one of the shells says how it is replaced: whether the variables are left
behind; and the words after them. -/
def afterPlace : Bool → List Text → Bool × List Text
  | bare, ['-', '-'] :: words => (bare, words)
  | bare, ['-', 'a'] :: _ :: words => afterPlace bare words
  | bare, ('-' :: c :: letters) :: words =>
      if (c :: letters).all "cl".toList.contains then
        afterPlace (bare || (c :: letters).contains 'c') words
      else (bare, ('-' :: c :: letters) :: words)
  | bare, words => (bare, words)

namespace State

/-- A loop has gone on for long: time passes. -/
def rested (s : State) : State × Bool :=
  let after := s.pass roundLimit.2
  (after, !after.isStopped)

/-- A process begins to run a program that lies at a place: it keeps what is exported. -/
def executing (place : Option Text) (s : State) : State :=
  let kept := s.environment.map fun (name, value) =>
    (name, { Variable.bare with value := some (.one value), isExported := true })
  let own : Table Variable := match place with
    | some path => if s.dialect = .bash then
        [(['_'], { Variable.bare with value := some (.one path), isExported := true })] else []
    | none => []
  let kept := if own.isEmpty then kept else kept.filter (·.1 != ['_'])
  { s with vars := kept ++ own, functions := [], nicknames := [], hidden := [], limits := s.limits }

/-- A shell tells which words it is about to carry out. -/
def trace (words : List Text) (s : State) : State :=
  if !s.isOn "xtrace" || words.isEmpty then s
  else
    let sign := (s.value? "PS4".toList).getD "+ ".toList
    let shown (w : Text) : Text :=
      if s.dialect = .dash then w
      else if w.isEmpty then "\x27\x27".toList
      else match Text.splitFirst ['='] w with
        | some (name, value) => if isName name then name ++ '=' :: plainQuote value
            else plainQuote w
        | none => plainQuote w
    s.mutter (sign ++ Text.joinWith [' '] (words.map shown) ++ ['\n'])

/-! ### Partners -/

/-- The open files of the shell lead no longer to where a partner reads. -/
def hasClosed (s : State) (p : Partner) : Bool :=
  !s.streams.any fun (_, n) =>
    (s.world.opening n).target = .queue p.input && (s.world.opening n).writes

/-- A partner reads what it has been given, and what it writes comes into its queue. -/
def refreshOne (p : Partner) (s : State) : State :=
  let text := (s.world.queue p.input).all
  let isClosed := s.hasClosed p
  let isSame := p.given = some text.length && !isClosed
  if isSame || (s.endStatus? p.process).isSome then s
  else
    let (out, status, world) := p.answer isClosed text s.world
    let queues := s.world.queues.modify p.output fun q =>
      { q with behind := out.drop p.written :: q.behind }
    let next := { p with given := some text.length, written := out.length }
    { s with
      world := { s.world with
        queues := queues
        store := if status.isSome then world.store else s.world.store
        ended := (status.toList.map fun status => (p.process, status)) ++ s.world.ended }
      partners := s.partners.map fun q => if q.process = p.process then next else q }

/-- All partners read what they have been given. -/
def refresh (s : State) : State :=
  if s.partners.isEmpty then s else s.partners.foldl (fun s p => s.refreshOne p) s

/-! ### Conditions -/

/-- The text of an expression whose quoted signs stand for themselves; what stands between square
brackets stays as it is. Behind the bracket that opens, and behind a sign that turns the meaning
around, one that closes is a plain sign (`depth` counts how far that is). -/
def expressionOf : Nat → Signs → Text
  | _, [] => []
  | depth, c :: rest =>
      match depth with
      | 0 =>
          if c.isQuoted && ".[]()*+?|^$\\\x7b\x7d".toList.contains c.char then
            '\\' :: c.char :: expressionOf 0 rest
          else c.char :: expressionOf (if c.char = '[' && !c.isQuoted then 1 else 0) rest
      | 1 => c.char :: expressionOf (if c.char = '^' then 2 else 3) rest
      | 2 => c.char :: expressionOf 3 rest
      | _ => c.char :: expressionOf (if c.char = ']' then 0 else 3) rest

/-- Compares a text with an expression, and keeps what its groups have found. -/
def matched (t : Text) (signs : Signs) (s : State) : State × Verdict :=
  let w := s.shellIsWide
  let manner := { Manner.ofStyle .extended with
    folds := s.isOn "nocasematch"
    closesAlone := true }
  match Regular.ofText? manner (widened w (expressionOf 0 signs)) with
  | none => (s, .senseless)
  | some r =>
      let t := widened w t
      match r.find? true t 0 with
      | none => (s.putValues matchName false [], .fails)
      | some found =>
          let groups := (List.range (r.groupCount + 1)).map fun n =>
            narrowed w ((found.group? t n).getD [])
          (s.putValues matchName false (numbered groups), .holds)

/-- How texts are compared with patterns in conditions and choices. -/
def casedRules (s : State) : Pattern.Rules :=
  { s.patternRules with
    folds := s.isOn "nocasematch"
    groups := s.dialect = .bash }

/-- A text fits a pattern in a condition or a choice. -/
def fits (s : State) (signs : Signs) (t : Text) : Bool :=
  let w := s.shellIsWide
  let rules := s.casedRules
  (Pattern.ofSigns rules (signs.widened w)).fits rules.folds (widened w t)

/-! ### Choosing from a list -/

/-- The list from which somebody chooses. -/
def menuText (words : List Text) : Text :=
  let width := (Text.ofNat words.length).length
  (words.zipIdx).flatMap fun (word, n) =>
    let number := Text.ofNat (n + 1)
    List.replicate (width - number.length) ' ' ++ number ++ ") ".toList ++ word ++ ['\n']

/-- The next line of the input, unless it has come to its end. -/
def answer? (s : State) : State × Option Text :=
  let t := s.ahead 0
  let line := t.takeWhile (· != '\n')
  if t.isEmpty then (s, none)
  else (s.advance 0 (line.length + 1),
    if line.length = t.length then none else some line)

/-! ### Elements -/

/-- Gives a variable elements, where they say or one after the other. -/
def assignElements (name : Text) (entries : List (Option Text × Bool × Text)) (s : State) : State :=
  let put (s : State) (key : Text) (adds : Bool) (value : Text) : State :=
    let before := if adds then ((s.values? name).bind (Table.get? · key)).getD [] else []
    s.assignElement name key (before ++ value)
  (entries.foldl (fun ((s, next) : State × Nat) (key, adds, value) =>
    if s.isStopped then (s, next)
    else
      match key with
      | some key => (put s key adds value, digitsValue key + 1)
      | none => (put s (Text.ofNat next) adds value, next + 1)) (s, s.nextKey name)).1

/-- Elements that say nothing else are texts and values in turn where values stand under texts. -/
def paired : List (Option Text × Bool × Text) → List (Option Text × Bool × Text)
  | (none, _, key) :: (_, _, value) :: rest => (some key, false, value) :: paired rest
  | (none, _, key) :: [] => [(some key, false, [])]
  | (some key, adds, value) :: rest => (some key, adds, value) :: paired rest
  | [] => []

end State

/-- Where some words are given options, one of them is the given letter. -/
def hasOption (letter : Char) (words : List Text) : Bool :=
  (words.takeWhile fun w => w.head? == some '-' && w ≠ ['-', '-']).any (·.tail.contains letter)

/-- Takes a letter out of options. -/
def withoutOption (letter : Char) : List Text → List Text
  | ('-' :: letters) :: words =>
      if letters = ['-'] then ('-' :: letters) :: words
      else
        let kept := letters.filter (· != letter)
        if kept.isEmpty then withoutOption letter words
        else ('-' :: kept) :: withoutOption letter words
  | words => words

end KeyMenu.Sh
