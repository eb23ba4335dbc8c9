import KeyMenu.Sh.Builtin

/-!
# Names of commands

What the name of a command means to a shell: a nickname, a word with a meaning of its own, a
function, a command that the shell knows by itself, or a program (`State.meaning?`); and what comes
of a name that means nothing.
-/

namespace KeyMenu.Sh

/-- The status over a program that does not run, where a shell was to run it. -/
def LaunchFault.status (dialect : Dialect) (name : Text) (fault : LaunchFault) : Int :=
  match fault, dialect with
  | .notFound, _ => 127
  | .notPermitted, .dash => if name.contains '/' then 126 else 127
  | .notPermitted, .bash => 126
  | _, .dash => 127
  | .notADirectory, .bash => if name.contains '/' then 126 else 127
  | _, .bash => 126

/-- The status over a program that does not run, where another program was to run it. -/
def LaunchFault.statusElsewhere (fault : LaunchFault) : Int :=
  if fault = .notFound then 127 else 126

/-- The wording of a program that does not run. -/
def LaunchFault.message : LaunchFault → Text
  | .notFound => "No such file or directory".toList
  | .notADirectory => "Not a directory".toList
  | .notPermitted => "Permission denied".toList
  | .nameTooLong => "File name too long".toList
  | .tooManyLinks => "Too many levels of symbolic links".toList
  | .nullCharacter => "Invalid argument".toList
  | .noProgram => "Exec format error".toList

/-- What a name means. -/
inductive Meaning
  | nickname (text : Text)
  | keyword
  | function (body : Command)
  | builtin
  | file (path : Text)

namespace State

/-- The search path of a shell. -/
def search (s : State) : Text := (s.value? "PATH".toList).getD []

/-- Finds a program as a shell does. -/
def findCommand (s : State) (name : Text) : Except LaunchFault Executable :=
  if name.isEmpty then .error .notFound else s.findProgram (some s.search) name

/-- Where programs of a name lie. -/
def placesOf (s : State) (name : Text) : List Text :=
  if name.contains '/' then if (s.programAt name).isOk then [name] else []
  else if name.isEmpty then []
  else ((searchParts s.search).map (inDirectory · name)).filter fun t => (s.programAt t).isOk

/-- Where a program lies. -/
def placeOf? (s : State) (name : Text) : Option Text := (s.placesOf name).head?

/-- The switch that takes a command of the shell out of use. -/
def absentSwitch (name : Text) : String := "without " ++ String.ofList name

/-- The command of the shell, unless it is out of use. -/
def builtinOf? (s : State) (name : Text) : Option Tool :=
  if s.isOn (absentSwitch name) then none else builtin? s.dialect name

/-- The command is one by which the shell runs others. -/
def isRunner (s : State) (name : Text) : Bool :=
  (runners s.dialect).contains name && !s.isOn (absentSwitch name)

/-- The shell knows the command by itself. -/
def knows (s : State) (name : Text) : Bool := (s.builtinOf? name).isSome || s.isRunner name

/-- Nicknames count. -/
def expandsNicknames (s : State) : Bool :=
  s.dialect = .dash || s.isOn "expand_aliases" || s.isOn "posix"

/-- All that a name means, what counts first. -/
def meanings (s : State) (withFunctions : Bool) (name : Text) : List Meaning :=
  let nickname := if s.expandsNicknames then Table.get? s.nicknames name else none
  let keywords := Command.reserved s.dialect ++ (if s.dialect = .bash then ["]]"] else [])
  let body := if withFunctions then Table.get? s.functions name else none
  (nickname.toList.map .nickname) ++
    (if keywords.any (·.toList == name) then [.keyword] else []) ++
    (body.toList.map .function) ++ (if s.knows name then [.builtin] else []) ++
    (s.placesOf name).map .file

/-- What a name means. -/
def meaning? (s : State) (name : Text) : Option Meaning := (s.meanings true name).head?

/-- A short text of what a name stands for. -/
def briefly (s : State) (name : Text) : Meaning → Text
  | .nickname text => "alias ".toList ++ name ++ '=' :: singleQuote text
  | .file path => if s.dialect = .bash && !(path.head? = some '/') && name.contains '/' then path
      else path
  | _ => name

/-- A sentence that tells what a name stands for. -/
def sentence (s : State) (name : Text) (m : Meaning) : Text :=
  let isDash := s.dialect = .dash
  name ++ match m with
    | .nickname text =>
        if isDash then " is an alias for ".toList ++ text
        else " is aliased to \x60".toList ++ text ++ ['\x27']
    | .keyword => " is a shell keyword".toList
    | .function body =>
        if isDash then " is a shell function".toList
        else " is a function\n".toList ++ (Command.functionListed name body).dropLast
    | .builtin => if isDash && isLasting name && name ≠ "local".toList then
        " is a special shell builtin".toList else " is a shell builtin".toList
    | .file path => " is ".toList ++ path

/-- The word for a kind of meaning. -/
def kindWord : Meaning → Text
  | .nickname _ => "alias".toList
  | .keyword => "keyword".toList
  | .function _ => "function".toList
  | .builtin => "builtin".toList
  | .file _ => "file".toList

/-- One of the shells tells only what the first name stands for. -/
def namesAtOnce (s : State) : List Text → List Text := fun names =>
  if s.dialect = .dash then names.take 1 else names

/-- Tells what names stand for; it depends on the shell how it fails. Where one name is enough, the
others may mean nothing. -/
def describe (isSilent isOneEnough : Bool) (tell : Text → List Meaning → Text)
    (names : List Text) (s : State) (withFunctions isAll : Bool) : State :=
  let found (name : Text) : List Meaning :=
    let all := s.meanings withFunctions name
    if isAll then all else all.take 1
  let after := names.foldl (fun s' name =>
    let all := found name
    if all.isEmpty then
      if s.dialect = .dash && !isSilent then s'.put (name ++ ": not found\n".toList)
      else s'
    else s'.put (tell name all)) (s.withStatus 0)
  let known := (names.filter fun name => !(found name).isEmpty).length
  let isDone := known = names.length || (isOneEnough && 0 < known)
  if isDone then after else after.withStatus (if s.dialect = .dash then 127 else 1)

/-- Tells what names stand for, in short or in sentences. -/
def describeNames (isBrief isOneEnough : Bool) (names : List Text) (s : State) : State :=
  s.describe (isBrief || isOneEnough) isOneEnough (fun name all => all.flatMap fun m =>
    (if isBrief then s.briefly name m else s.sentence name m) ++ ['\n']) names true false

/-- The command that tells what names stand for, with its options. -/
def describeTypes (words : List Text) (s : State) : State :=
  let (letters, names) := lettersFirst words
  let has (c : Char) : Bool := letters.contains c
  if s.dialect = .dash then s.describeNames false false words
  else if has 'P' then
    let s := names.foldl (fun s' name =>
      let places := if has 'a' then s.placesOf name else (s.placesOf name).take 1
      s'.put (places.flatMap (· ++ ['\n']))) (s.withStatus 0)
    s.withStatus (if names.all fun name => (s.placeOf? name).isSome then 0 else 1)
  else
    let tell (name : Text) (all : List Meaning) : Text := all.flatMap fun m =>
      if has 't' then kindWord m ++ ['\n']
      else if has 'p' then match m with
        | .file path => path ++ ['\n']
        | _ => []
      else s.sentence name m ++ ['\n']
    let after := s.describe false false tell names (!has 'f') (has 'a')
    if after.status = 0 || has 't' || has 'p' then after
    else
      names.foldl (fun s' name => if (s.meanings (!has 'f') name).isEmpty then
        s'.blame "type".toList (name ++ ": not found".toList) else s') after

/-- Remembers where programs lie. -/
def remember (words : List Text) (s : State) : State :=
  let (letters, names) := lettersFirst words
  if letters.contains 't' then
    let s := names.foldl (fun s' name => match s.placeOf? name with
      | some path => s'.put (path ++ ['\n'])
      | none => s') (s.withStatus 0)
    s.withStatus (if names.all fun name => (s.placeOf? name).isSome then 0 else 1)
  else if letters.contains 'p' || letters.contains 'd' then s.withStatus 0
  else
    let isKnown (name : Text) : Bool := (s.meaning? name).isSome
    let s := (names.filter (!isKnown ·)).foldl (fun s name =>
      s.blame "hash".toList (name ++ ": not found".toList)) s
    s.withStatus (if names.all isKnown then 0 else 1)

/-- Takes commands of the shell out of use or back into it, or lists them. -/
def enable (words : List Text) (s : State) : State :=
  let (letters, names) := lettersFirst words
  let takesAway := letters.contains 'n'
  if names.isEmpty || letters.contains 'p' then
    let listed := (builtinNames s.dialect).filter fun name =>
      letters.contains 'a' || s.isOn (absentSwitch name) == takesAway
    s.write (listed.flatMap fun name => "enable ".toList ++
      (if s.isOn (absentSwitch name) then "-n ".toList else []) ++ name ++ ['\n'])
  else
    names.foldl (fun s name =>
      if (builtinNames s.dialect).contains name then s.turn (absentSwitch name) takesAway
      else (s.blame "enable".toList (name ++ ": not a shell builtin".toList)).withStatus 1)
      (s.withStatus 0)

/-- Tells how commands are used. -/
def help (words : List Text) (s : State) : State :=
  let (_, names) := lettersFirst words
  let known := names.filter (builtinNames s.dialect ++
    (Command.reserved .bash).map String.toList).contains
  if names.isEmpty then s.write "GNU bash, version 5.2.21(1)-release (x86_64-pc-linux-gnu)\n".toList
  else if known.isEmpty then s.fail 1 "help".toList "no help topics match".toList
  else s.write (known.flatMap fun name => name ++ ": ".toList ++ name ++ ['\n'])

/-- The text of a file that is to be read in: a name without a slash is looked for along the search
path, and by one of the shells also in the working directory. -/
def sourceText? (s : State) (name : Text) : Option (State × Text) :=
  if name.contains '/' then (s.textAt name).toOption
  else
    let along := (searchParts s.search).map (inDirectory · name)
    let places := if s.dialect = .bash then along ++ [name] else along
    places.findSome? fun path => (s.textAt path).toOption

end State

end KeyMenu.Sh
