import KeyMenu.Sh.Lookup

/-!
# Starting a shell

The switches of a shell by letter and by name, and its command line: options first, then the command
text or a file, then the arguments (`Start.ofArguments`). A shell begins with variables of its own
besides those of its environment (`State.inner`).
-/

namespace KeyMenu.Sh

namespace Switches

/-- The switches that are on where nothing is said. -/
def standard : Dialect → List String
  | .dash => []
  | .bash => ["braceexpand", "hashall", "interactive-comments", "checkwinsize", "cmdhist",
      "complete_fullquote", "extquote", "force_fignore", "globasciiranges", "globskipdots",
      "hostcomplete", "interactive_comments", "patsub_replacement", "progcomp", "promptvars",
      "sourcepath"]

/-- Turns one switch on or off. -/
def turned (on : Bool) (name : String) (switches : List String) : List String :=
  let others := switches.filter (· != name)
  if on then name :: others else others

/-- Turns one switch on or off by its letter, if the shell knows it. -/
def turn? (dialect : Dialect) (on : Bool) (letter : Char) (switches : List String) :
    Option (List String) :=
  if letter = 'l' then some switches
  else if dialect = .bash && (letter = 'c' || letter = 's' || letter = 'D') then none
  else
    (((State.switchLetters dialect).find? (·.1 == letter))).map fun (_, name) =>
      turned on name switches

/-- Turns one switch on or off by its name, if the shell knows it. -/
def turnNamed? (dialect : Dialect) (on : Bool) (name : Text) (switches : List String) :
    Option (List String) :=
  let name := String.ofList name
  if (State.switchNames dialect).contains name then some (turned on name switches) else none

/-- Turns switches on or off by their letters. -/
def turnAll? (dialect : Dialect) (on : Bool) (letters : Text) (switches : List String) :
    Option (List String) :=
  letters.foldlM (fun switches c => turn? dialect on c switches) switches

/-- The text that lists switches, or the commands that set them. -/
def listed (isCommands : Bool) (dialect : Dialect) (switches : List String) : Text :=
  let lines := (State.switchNames dialect).flatMap fun name =>
    let on := switches.contains name
    let width := if dialect = .bash then 15 else 16
    let blanks := List.replicate (width - name.length) ' '
    let gap := if dialect = .bash then blanks ++ ['\t'] else blanks
    if isCommands then "set ".toList ++ (if on then "-o " else "+o ").toList ++
        name.toList ++ ['\n']
    else name.toList ++ gap ++ (if on then "on\n" else "off\n").toList
  if dialect = .dash && !isCommands then "Current option settings\n".toList ++ lines else lines

end Switches

/-- How a shell has been started: with a command text or without, whether it reads its input, and
the words behind the options. -/
structure Start where
  takesText : Bool
  readsInput : Bool
  words : List Text
  switches : List String

/-- What comes of the options of a shell: it starts, or it ends at once with a status after writing
something. -/
inductive Started
  | runs (start : Start)
  | ends (status : Int) (text : Text)

namespace Start

/-- A shell has made its options stop it. -/
def isStrict (start : Start) : Bool := start.switches.contains "errexit"

/-- The long options without and with a value. -/
def longOptions : List String × List String :=
  (["norc", "noprofile", "posix", "login", "verbose", "noediting", "restricted", "debugger",
    "dump-strings", "dump-po-strings", "protected"], ["rcfile", "init-file"])

/-- The name of a long option. -/
def longName? (word : Text) : Option String :=
  match word with
  | '-' :: '-' :: c :: name => some (String.ofList (c :: name))
  | '-' :: c :: d :: name =>
      let name := String.ofList (c :: d :: name)
      if (longOptions.1 ++ longOptions.2).contains name || name = "version" || name = "help" then
        some name
      else none
  | _ => none

/-- Reads the options that are given by letters. -/
def ofLetters (dialect : Dialect) : Nat → List Text → Start → Started
  | 0, _, start => .runs start
  | _ + 1, ['-'] :: words, start => .runs { start with words := words }
  | _ + 1, ['-', '-'] :: words, start => .runs { start with words := words }
  | fuel + 1, (sign :: c :: letters) :: words, start =>
      if sign ≠ '-' ∧ sign ≠ '+' then .runs { start with words := (sign :: c :: letters) :: words }
      else
        let on := sign == '-'
        let letters := c :: letters
        let isKnown (c : Char) : Bool := c == 'c' || c == 'o' || c == 'l' || c == 's' ||
          (dialect = .bash && (c == 'O' || c == 'D'))
        let stops := dialect = .bash && (start.isStrict || letters.contains 'e')
        let mistake := if stops then 1 else 2
        match Switches.turnAll? dialect on (letters.filter (!isKnown ·)) start.switches with
        | none => .ends mistake []
        | some switches =>
            let start := { start with
              switches := switches
              takesText := start.takesText || (on && letters.contains 'c')
              readsInput := start.readsInput || (on && letters.contains 's') }
            if letters.contains 'o' then
              match words with
              | [] => .ends 0 (Switches.listed (!on) dialect switches)
              | name :: words =>
                  match Switches.turnNamed? dialect on name switches with
                  | some switches =>
                      ofLetters dialect fuel words { start with switches := switches }
                  | none => .ends mistake []
            else if letters.contains 'O' && dialect = .bash then
              match words with
              | [] => .ends 0 (State.optionNames.flatMap fun name =>
                  name.toList ++ '\t' :: (if switches.contains name then "on\n"
                    else "off\n").toList)
              | name :: words =>
                  if State.optionNames.contains (String.ofList name) then
                    ofLetters dialect fuel words
                      { start with switches := Switches.turned on (String.ofList name) switches }
                  else .ends mistake []
            else ofLetters dialect fuel words start
  | _ + 1, words, start => .runs { start with words := words }

/-- Reads the long options, and then those that are given by letters. -/
def ofWords (dialect : Dialect) : List Text → Start → Started
  | word :: words, start =>
      match if dialect = .bash then longName? word else none with
      | none => ofLetters dialect (words.length + 2) (word :: words) start
      | some name =>
          let turned (name : String) : Start :=
            { start with switches := Switches.turned true name start.switches }
          if name = "version" then
            .ends 0 "GNU bash, version 5.2.21(1)-release (x86_64-pc-linux-gnu)\n".toList
          else if name = "help" then .ends 0 "GNU bash, version 5.2.21(1)-release\n".toList
          else if name = "restricted" || name = "posix" || name = "verbose" then
            ofWords dialect words (turned name)
          else if name = "login" then ofWords dialect words (turned "login_shell")
          else if longOptions.1.contains name then ofWords dialect words start
          else if longOptions.2.contains name then
            match words with
            | _ :: words => ofWords dialect words start
            | [] => .ends 2 []
          else .ends 2 []
  | [], start => .runs start

/-- Reads the command line of a shell. -/
def ofArguments (dialect : Dialect) (words : List Text) : Started :=
  ofWords dialect words ⟨false, false, [], Switches.standard dialect⟩

end Start

/-- The search path of a shell that is not told any. -/
def shellSearch : Text := "/usr/local/sbin:/usr/local/bin:/usr/sbin:/usr/bin:/sbin:/bin".toList

namespace State

/-- The working directory as the environment calls it, if that is true, or else by its own path. -/
def truePlace (s : State) (said : Option Text) : Text :=
  match said with
  | some path =>
      let isPlain := path.head? = some '/' &&
        (Store.pieces path).2.all fun name => name ≠ ['.'] && name ≠ ['.', '.']
      if isPlain && (s.inodeAt true path).toOption = some s.here then path else s.directory
  | none => s.directory

/-- The variables of a shell's own. -/
def ownVariables (s : State) (dialect : Dialect) : List (Text × Variable) :=
  let given := s.environment
  let plain (name value : String) : Text × Variable :=
    (name.toList, { Variable.bare with value := some (.one value.toList) })
  let number (name value : String) : Text × Variable :=
    (name.toList, { Variable.bare with
      value := some (.one value.toList)
      isFixed := true
      isNumber := true })
  let exported (name : String) (value : Option Text) : Text × Variable :=
    (name.toList, { Variable.bare with value := value.map .one, isExported := true })
  let level := ((Table.get? given "SHLVL".toList).bind (number? .bash)).getD 0
  let missing (name value : String) : List (Text × Variable) :=
    if (Table.get? given name.toList).isSome then [] else [plain name value]
  let place := s.truePlace (Table.get? given "PWD".toList)
  let parent := String.ofList (Text.ofNat (s.ancestors.headD 1))
  let common := missing "PATH" (String.ofList shellSearch) ++
    [exported "PWD" (some place), plain "IFS" " \t\n", plain "OPTIND" "1"]
  match dialect with
  | .dash => common ++ [plain "PPID" parent, plain "PS1" "# ", plain "PS2" "> ", plain "PS4" "+ "]
  | .bash =>
      let before := Table.get? given "OLDPWD".toList
      let version : Variable := { Variable.bare with
        value := some (.many false (numbered
          (["5", "2", "21", "1", "release", "x86_64-pc-linux-gnu"].map String.toList)))
        isFixed := true }
      common ++ [number "PPID" parent, number "UID" "0", number "EUID" "0",
        exported "OLDPWD" (before.filter s.hasDirectory),
        exported "SHLVL" (some (Text.ofInt (level + 1))), plain "BASH" "/usr/bin/bash",
        plain "BASH_VERSION" "5.2.21(1)-release", ("BASH_VERSINFO".toList, version),
        plain "HOSTTYPE" "x86_64", plain "MACHTYPE" "x86_64-pc-linux-gnu",
        plain "OSTYPE" "linux-gnu", plain "OPTERR" "1", plain "PS4" "+ "] ++
        missing "HOSTNAME" "localhost" ++ missing "SHELL" "/bin/bash" ++ missing "TERM" "dumb"

/-- The functions that the environment of one of the shells hands on, by their names, with the texts
that define them. -/
def handedFunctions (s : State) : List (Text × Text) :=
  s.environment.filterMap fun (name, value) =>
    let start := "BASH_FUNC_".toList
    if start.isPrefixOf name && "%%".toList.isSuffixOf name &&
        "() \x7b".toList.isPrefixOf value then
      let name := (name.drop start.length).take (name.length - start.length - 2)
      some (name, name ++ ' ' :: value)
    else none

/-- The program that a process runs when a shell is started: a shell with variables of its own. -/
def inner (s : State) (dialect : Dialect) (start : Start) (name : Text)
    (arguments : List Text) : State :=
  let given := s.environment
  let isKept (name : Text) : Bool :=
    if dialect = .dash then isName name else !"BASH_FUNC_".toList.isPrefixOf name
  let handed : Table Variable := given.filterMap fun (name, value) =>
    if isKept name then
      some (name, { Variable.bare with value := some (.one value), isExported := true })
    else none
  let handed := handed.filter fun (name, _) => name ≠ "IFS".toList
  let vars := (s.ownVariables dialect).foldl (fun vars (name, v) => Table.put vars name v) handed
  let place := (Table.get? vars "PWD".toList).bind fun v =>
    match v.value with
    | some (.one t) => some t
    | _ => none
  let switches := if start.takesText && dialect = .bash then "commandtext" :: start.switches
    else if start.readsInput || (start.words.isEmpty && !start.takesText) then
      "stdin" :: start.switches
    else start.switches
  let inherited := if dialect = .bash then
      (searchSwitches (Table.get? given "SHELLOPTS".toList) (switchNames .bash)) ++
        searchSwitches (Table.get? given "BASHOPTS".toList) optionNames
    else []
  { s with
    dialect := dialect
    place := place.getD s.directory
    vars := vars.filter fun (name, _) =>
      dialect = .dash || (name ≠ "SHELLOPTS".toList && name ≠ "BASHOPTS".toList)
    hidden := []
    pipeStatuses := [0]
    functions := []
    nicknames := []
    name := name
    arguments := arguments
    switches := inherited ++ switches
    jobs := []
    partners := []
    directories := []
    lastWord := (Table.get? given ['_']).getD name
    command := .nothing
    line := 1
    callers := []
    sources := []
    secondsFrom := s.world.clock / 1000000000
    caught := []
    traps := s.traps.filter (·.2.isEmpty)
    innerStatus := none
    leavingStatus := none
    isTested := false
    isLast := false
    depth := 0
    level := 0
    isPiped := false
    readers := []
    loops := 0
    calls := 0
    status := 0
    stopped := none }
where
  /-- The known names between colons. -/
  searchSwitches (t : Option Text) (known : List String) : List String :=
    match t with
    | none => []
    | some t => ((searchParts t).map String.ofList).filter known.contains

end State

end KeyMenu.Sh
