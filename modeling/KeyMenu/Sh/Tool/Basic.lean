import KeyMenu.Sh.Builtin.Basic
import KeyMenu.Sh.Lookup

/-!
# Words of programs

The words of a program are options and operands. `Given.ofWords` tells both apart by the options
that a program knows, and `optioned` makes a program of what it does with them. `State.gather` reads
the files that are named, or else the input.
-/

namespace KeyMenu.Sh

/-- What is done for programs that run others: another program takes the place of a process, or a
process runs one and waits for it. -/
structure Runners where
  become : List Text → State → State
  call : List Text → State → State

/-- What a program does that runs others. -/
abbrev Agent := Runners → Tool

/-- Runs a command text by a shell, and waits for it. -/
def Runners.shell (r : Runners) (text : Text) (s : State) : State :=
  r.call ["/bin/sh".toList, "-c".toList, text] s

/-! ### Options -/

/-- The options that a program knows: letters, those with a colon behind them with a value and those
with a question mark perhaps with one; and long names, which stand for a letter behind an equals
sign, or for themselves in the same way. With `stopsEarly` no option stands behind an operand. -/
structure Options where
  letters : String
  long : List String
  stopsEarly : Bool

/-- Options with their values, and operands. -/
structure Given where
  options : List (Text × Text)
  operands : List Text

/-- Whether an option has a value. -/
inductive Taking
  | nothing
  | value
  | perhaps
  deriving DecidableEq

namespace Options

/-- The letter of an option is known, and whether it has a value. -/
def letter? (o : Options) (c : Char) : Option Taking :=
  if c = ':' || c = '?' then none
  else
    match o.letters.toList.dropWhile (· != c) with
    | [] => none
    | _ :: ':' :: _ => some .value
    | _ :: '?' :: _ => some .perhaps
    | _ => some .nothing

/-- The name, the meaning and the value of one of the long names. -/
def longEntry (o : Options) (entry : String) : Text × Text × Taking :=
  let t := entry.toList
  match Text.splitFirst ['='] t with
  | some (name, [c]) => (name, [c], (o.letter? c).getD .nothing)
  | some (name, meaning) => (name, meaning, .nothing)
  | none =>
      match t.getLast? with
      | some ':' => (t.dropLast, t.dropLast, .value)
      | some '?' => (t.dropLast, t.dropLast, .perhaps)
      | _ => (t, t, .nothing)

/-- The long name that begins with a text; the text may be all of it, or the only way to go on may
be known. -/
def long? (o : Options) (start : Text) : Except Text (Text × Taking) :=
  let entries := (o.long ++ ["help", "version"]).map o.longEntry
  match entries.find? (·.1 == start) with
  | some (_, meaning) => .ok meaning
  | none =>
      let fitting := entries.filter (start.isPrefixOf ·.1)
      match (fitting.map Prod.snd).eraseDups with
      | [meaning] => .ok meaning
      | [] => .error ("unrecognized option \x27--".toList ++ start ++ ['\x27'])
      | _ => .error ("option \x27--".toList ++ start ++ "\x27 is ambiguous".toList)

end Options

namespace Given

/-- Nothing. -/
def empty : Given := ⟨[], []⟩

/-- With one more option in front. -/
def withOption (key : Text) (value : Text) (g : Given) : Given :=
  { g with options := (key, value) :: g.options }

/-- What letters behind a dash are: options, the last one perhaps with a value; there is the letter
that takes the next word for its value. -/
def bundle (o : Options) : Text → Except Text (List (Text × Text) × Option Char)
  | [] => .ok ([], none)
  | c :: rest =>
      match o.letter? c with
      | none => .error ("invalid option -- \x27".toList ++ [c, '\x27'])
      | some .nothing => do
          let (more, last) ← bundle o rest
          return (([c], []) :: more, last)
      | some .perhaps => .ok ([([c], rest)], none)
      | some .value => if rest.isEmpty then .ok ([], some c) else .ok ([([c], rest)], none)

/-- Reads words; the message says what is wrong with them. -/
def ofWords (o : Options) : List Text → Except Text Given
  | [] => .ok empty
  | word :: words =>
      match word with
      | ['-', '-'] => .ok ⟨[], words⟩
      | '-' :: '-' :: text => do
          let (name, value) := match Text.splitFirst ['='] text with
            | some (name, value) => (name, some value)
            | none => (text, none)
          let (key, taking) ← o.long? name
          match taking, value, words with
          | .nothing, some _, _ =>
              .error ("option \x27--".toList ++ name ++ "\x27 doesn\x27t allow an argument".toList)
          | .value, none, next :: words => return (← ofWords o words).withOption key next
          | .value, none, [] =>
              .error ("option \x27--".toList ++ name ++ "\x27 requires an argument".toList)
          | _, value, words => return (← ofWords o words).withOption key (value.getD [])
      | '-' :: c :: rest => do
          let (options, last) ← bundle o (c :: rest)
          match last, words with
          | none, words =>
              let more ← ofWords o words
              return { more with options := options ++ more.options }
          | some c, next :: words =>
              let more ← ofWords o words
              return { more with options := options ++ ([c], next) :: more.options }
          | some c, [] =>
              .error ("option requires an argument -- \x27".toList ++ [c, '\x27'])
      | word =>
          if o.stopsEarly then .ok ⟨[], word :: words⟩
          else do
            let more ← ofWords o words
            return { more with operands := word :: more.operands }

/-- An option is given. -/
def has (g : Given) (c : Char) : Bool := g.options.any (·.1 == [c])

/-- An option with a long name is given. -/
def hasLong (g : Given) (name : String) : Bool := g.options.any (·.1 == name.toList)

/-- The values of an option. -/
def values (g : Given) (c : Char) : List Text :=
  (g.options.filter (·.1 == [c])).map Prod.snd

/-- The value of an option; the last one counts. -/
def value? (g : Given) (c : Char) : Option Text := (g.values c).getLast?

/-- The value of an option with a long name; the last one counts. -/
def longValue? (g : Given) (name : String) : Option Text :=
  ((g.options.filter (·.1 == name.toList)).map Prod.snd).getLast?

/-- The last one of some options that is given. -/
def last? (g : Given) (letters : String) : Option Char :=
  ((g.options.filterMap fun (key, _) => match key with
    | [c] => if letters.toList.contains c then some c else none
    | _ => none)).getLast?

end Given

/-- A program that reads its words by the options it knows; where it cannot, it fails with a
status. -/
def optioned (name letters : String) (long : List String) (misuse : Int)
    (f : Given → State → State) : Tool := fun words s =>
  match Given.ofWords ⟨letters, long, false⟩ words with
  | .ok g =>
      if g.hasLong "help" then s.write ("Usage: ".toList ++ name.toList ++ " [OPTION]...\n".toList)
      else if g.hasLong "version" then s.write (name.toList ++ " (GNU coreutils) 9.4\n".toList)
      else f g (s.withStatus 0)
  | .error message =>
      let s := s.complain misuse name.toList message
      s.mutter ("Try \x27".toList ++ name.toList ++
        " --help\x27 for more information.\n".toList)

/-- A program fails over an operand that is missing. -/
def State.missOperand (name : String) (misuse : Int) (s : State) : State :=
  s.complain misuse name.toList "missing operand".toList

/-- A program that needs an operand, and does something with each of them. -/
def onEach (name letters : String) (long : List String) (f : Given → Text → State → State) : Tool :=
  optioned name letters long 1 fun g s =>
    if g.operands.isEmpty then s.missOperand name 1
    else g.operands.foldl (fun s operand => if s.isStopped then s else f g operand s) s

/-! ### Texts -/

/-- A text between quotes, as programs name files. -/
def inQuotes (t : Text) : Text := '\x27' :: t ++ ['\x27']

/-- The lines of a text, without their ends. -/
def textLines (t : Text) : List Text :=
  (t.splitBy fun a _ => a != '\n').map fun g => if g.getLast? = some '\n' then g.dropLast else g

/-- The pieces of a text that a sign ends. -/
def piecesEndedBy (limit : Char) (t : Text) : List Text :=
  (t.splitBy fun a _ => a != limit).map fun g => if g.getLast? = some limit then g.dropLast else g

/-- Lines as a text. -/
def ofLines (lines : List Text) : Text := lines.flatMap (· ++ ['\n'])

/-- The parts of a text between signs. -/
def splitAt (limit : Char) : Text → List Text
  | [] => [[]]
  | c :: rest =>
      match splitAt limit rest with
      | [] => [[c]]
      | part :: parts => if c = limit then [] :: part :: parts else (c :: part) :: parts

namespace State

/-- The texts of files with their names, or the input; the status tells if one is missing. -/
def gather (s : State) (who : String) (missing : Int) (names : List Text) :
    State × List (Text × Text) :=
  (if names.isEmpty then [['-']] else names).foldl (fun (s, texts) name =>
    if s.isStopped then (s, texts)
    else if name = ['-'] then
      let (s, t) := s.readAll
      (s, texts ++ [(name, t)])
    else
      match s.textAt name with
      | .ok (s, t) => (s, texts ++ [(name, t)])
      | .error fault => (s.complain missing who.toList (name ++ ": ".toList ++
          fault.message), texts))
    (s, [])

/-- The texts of files one after the other, or the input. -/
def gatherAll (s : State) (who : String) (missing : Int) (names : List Text) : State × Text :=
  let (s, texts) := s.gather who missing names
  (s, texts.flatMap Prod.snd)

/-- Writes a text into a file, or fails. -/
def save (who : String) (path t : Text) (s : State) : State :=
  match s.writeAt path t .write with
  | .ok s => s
  | .error fault => s.complain 1 who.toList (path ++ ": ".toList ++ fault.message)

/-- A program fails over a file. -/
def failOver (n : Int) (who what path : Text) (fault : Fault) (s : State) : State :=
  s.complain n who (what ++ inQuotes path ++ ": ".toList ++ fault.message)

/-- The time of the shell's clock, in seconds. -/
def seconds (s : State) : Int := s.world.now / World.second

end State

/-- A program that reads whole blocks has read so many bytes of the input: in a file it goes back to
where it has stopped, in a queue it has taken the blocks away. -/
def State.consume (block count : Nat) (s : State) : State :=
  match (s.opening? 0).map fun n => (s.world.opening n).target with
  | some (.queue _) => s.advance 0 (min ((count + block - 1) / block * block) (s.ahead 0).length)
  | _ => s.advance 0 count

/-- A length of time: a number, perhaps with a fraction, and a letter for what it counts in. -/
def duration? (t : Text) : Option Nat :=
  if t = "infinity".toList || t = "inf".toList then some State.never
  else
    let unit : Nat := match t.getLast? with
      | some 'm' => 60
      | some 'h' => 3600
      | some 'd' => 86400
      | _ => 1
    let digits := if t.getLast?.any Char.isAlpha then t.dropLast else t
    let isKnown := (t.getLast?).all fun c => !c.isAlpha || "smhd".toList.contains c
    let (whole, fraction) := (Text.splitFirst ['.'] digits).getD (digits, [])
    if !isKnown || (whole ++ fraction).isEmpty || !(whole ++ fraction).all Char.isDigit then none
    else
      let part := digitsValue ((fraction ++ List.replicate 9 '0').take 9)
      some (unit * (digitsValue whole * 1000000000 + part))

/-- A path without the slashes at its end. -/
def withoutSlashes (path : Text) : Text :=
  match (path.reverse.dropWhile (· == '/')).reverse with
  | [] => if path.isEmpty then [] else ['/']
  | t => t

/-- The last name of a path. -/
def baseName (path : Text) : Text :=
  let t := withoutSlashes path
  if t = ['/'] then t else ((t.reverse.takeWhile (· != '/'))).reverse

/-- The directory of a path. -/
def directoryName (path : Text) : Text :=
  let t := withoutSlashes path
  if t = ['/'] then t
  else
    let before := (t.reverse.dropWhile (· != '/')).reverse
    if before.isEmpty then ['.'] else withoutSlashes before

/-- A name under a directory. -/
def under (directory name : Text) : Text :=
  if directory.getLast? = some '/' then directory ++ name else directory ++ '/' :: name

/-- A number of things with a letter or two behind it for what it counts in. -/
def sizeOf? (t : Text) : Option Nat :=
  match digitsOf 10 20 t with
  | none => none
  | some (n, rest) =>
      let factor : Option Nat := match String.ofList rest with
        | "" => some 1
        | "c" => some 1
        | "w" => some 2
        | "b" => some 512
        | "kB" => some 1000
        | "KB" => some 1000
        | "k" => some 1024
        | "K" => some 1024
        | "KiB" => some 1024
        | "MB" => some 1000000
        | "M" => some 1048576
        | "MiB" => some 1048576
        | "m" => some 1048576
        | "GB" => some 1000000000
        | "G" => some 1073741824
        | "GiB" => some 1073741824
        | _ => none
      factor.map (n * ·)

/-- Options may come bundled, and behind operands. -/
example : ((Given.ofWords ⟨"an:", ["lines=n"], false⟩
    ["-an3".toList, "f".toList, "--line=4".toList]).toOption.map fun g =>
      (g.has 'a', g.values 'n', g.operands)) =
    some (true, ["3".toList, "4".toList], ["f".toList]) := by
  decide +kernel

end KeyMenu.Sh
