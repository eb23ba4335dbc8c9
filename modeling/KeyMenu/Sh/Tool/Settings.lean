import KeyMenu.Sh.Builtin
import KeyMenu.Sh.Tool.Basic

/-!
# What a machine tells of itself

Programs that tell the limits of a machine, its users and groups, its terminal and the working
directory, and those that show texts page by page.
-/

namespace KeyMenu.Sh

/-! ### Limits -/

/-- The limits of a machine. -/
def machineLimits : List (String × String) :=
  [("PAGESIZE", "4096"), ("PAGE_SIZE", "4096"), ("ARG_MAX", "2097152"), ("PATH", "/bin:/usr/bin"),
    ("CS_PATH", "/bin:/usr/bin"), ("LONG_BIT", "64"), ("WORD_BIT", "32"), ("CHAR_BIT", "8"),
    ("INT_MAX", "2147483647"), ("INT_MIN", "-2147483648"), ("UINT_MAX", "4294967295"),
    ("SHRT_MAX", "32767"), ("SHRT_MIN", "-32768"), ("USHRT_MAX", "65535"), ("UCHAR_MAX", "255"),
    ("SCHAR_MAX", "127"), ("SCHAR_MIN", "-128"), ("CHAR_MAX", "127"), ("CHAR_MIN", "-128"),
    ("ULONG_MAX", "18446744073709551615"), ("SSIZE_MAX", "32767"), ("CLK_TCK", "100"),
    ("HOST_NAME_MAX", "64"), ("LOGIN_NAME_MAX", "256"), ("LINE_MAX", "2048"),
    ("NGROUPS_MAX", "65536"), ("IOV_MAX", "1024"), ("RE_DUP_MAX", "32767"), ("BC_BASE_MAX", "99"),
    ("OPEN_MAX", "1024"), ("_POSIX_VERSION", "200809"), ("POSIX_VERSION", "200809"),
    ("POSIX2_VERSION", "200809"), ("_NPROCESSORS_CONF", "1"), ("_NPROCESSORS_ONLN", "1")]

/-- The limits of what lies under a path. -/
def pathLimits : List (String × String) :=
  [("NAME_MAX", "255"), ("_POSIX_NAME_MAX", "255"), ("PATH_MAX", "4096"), ("PIPE_BUF", "4096"),
    ("LINK_MAX", "127"), ("MAX_CANON", "255"), ("MAX_INPUT", "255")]

/-- The program that tells a limit. -/
def showLimit : Tool := fun words s =>
  let s := s.withStatus 0
  let value? (limits : List (String × String)) (name : Text) : Option Text :=
    (limits.find? fun (n, _) => n.toList == name).map fun (_, v) => v.toList
  let words := if words.head? = some "-v".toList then words.drop 2 else words
  let refused (t : Text) : State := s.complain 2 "getconf".toList t
  match words with
  | [name] =>
      if name = "-a".toList then
        s.put (ofLines (machineLimits.map fun (n, v) => n.toList ++ ' ' :: v.toList))
      else
        match value? machineLimits name with
        | some value => s.put (value ++ ['\n'])
        | none =>
            if (value? pathLimits name).isSome then refused "missing operand".toList
            else refused ("Unrecognized variable \x60".toList ++ name ++ ['\x27'])
  | [name, path] =>
      match value? pathLimits name, value? machineLimits name with
      | some value, _ =>
          match s.inodeAt true path with
          | .ok _ => s.put (value ++ ['\n'])
          | .error fault => s.complain 3 "getconf".toList
              ("pathconf: ".toList ++ path ++ ": ".toList ++ fault.message)
      | none, some _ => refused "extra operand".toList
      | none, none => refused ("Unrecognized variable \x60".toList ++ name ++ ['\x27'])
  | _ => refused "missing operand".toList

/-! ### Users, groups and machines -/

/-- The program that looks up entries about users, groups and machines. -/
def showEntries : Tool := optioned "getent" "is:" ["no-idn=i", "service=s:"] 64 fun g s =>
  let lines (name : String) : List Text :=
    ((s.textAt ("/etc/".toList ++ name.toList)).toOption.map fun (_, t) => textLines t).getD []
  /- An entry answers to its name and to its number. -/
  let answers (key line : Text) : Bool :=
    let fields := splitAt ':' line
    fields.head? == some key || (2 < fields.length && fields[2]? == some key)
  let words (line : Text) : List Text :=
    (line.splitBy fun a b => (a == ' ' || a == '\t') == (b == ' ' || b == '\t')).filter fun w =>
      !w.any fun c => c == ' ' || c == '\t'
  let aligned (line : Text) : Text :=
    match words line with
    | [] => []
    | address :: names => address ++ List.replicate (16 - address.length) ' ' ++
        Text.joinWith [' '] names
  let among (entries : List Text) (isMeant : Text → Text → Bool) (shown : Text → Text)
      (keys : List Text) : State :=
    if keys.isEmpty then s.put (ofLines (entries.map shown))
    else keys.foldl (fun s key =>
      match entries.find? (isMeant key) with
      | some line => s.put (shown line ++ ['\n'])
      | none => s.withStatus 2) s
  let refused (t : Text) : State := (s.put
    "Try \x60getent --help\x27 or \x60getent --usage\x27 for more information.\n".toList).complain 1
      "getent".toList t
  match g.operands with
  | [] => refused "wrong number of arguments".toList
  | database :: keys =>
      let isOneOf (names : List String) : Bool := names.any (·.toList == database)
      if isOneOf ["passwd", "group"] then
        among (lines (String.ofList database)) answers id keys
      else if isOneOf ["hosts"] then
        among (lines "hosts") (fun key line => (words line).contains key) aligned keys
      else if isOneOf ["shadow", "gshadow", "services", "protocols", "networks", "rpc", "ethers",
          "ahosts", "ahostsv4", "ahostsv6", "aliases", "initgroups", "netgroup"] then
        if keys.isEmpty then s else s.withStatus 2
      else refused ("Unknown database: ".toList ++ database)

/-! ### Terminals -/

/-- The names with which the names of known terminals begin. -/
def terminals : List String :=
  ["xterm", "linux", "screen", "tmux", "rxvt", "ansi", "vt100", "vt102", "vt220", "cygwin", "dumb"]

/-- What terminals do when they are told to. -/
def terminalOrders : List (String × String) :=
  [("bold", "[1m"), ("dim", "[2m"), ("rev", "[7m"), ("smso", "[7m"), ("rmso", "[27m"),
    ("smul", "[4m"), ("rmul", "[24m"), ("sgr0", "(B\x1b[m"), ("clear", "[H\x1b[2J\x1b[3J"),
    ("el", "[K"), ("ed", "[J"), ("el1", "[1K"), ("home", "[H"), ("cuu1", "[A"), ("cuf1", "[C"),
    ("civis", "[?25l"), ("cnorm", "[?12l\x1b[?25h"), ("smcup", "[?1049h\x1b[22;0;0t"),
    ("rmcup", "[?1049l\x1b[23;0;0t"), ("sc", "7"), ("rc", "8"), ("op", "[39;49m")]

/-- The program that tells what a terminal can do. -/
def showTerminalOrder : Tool := fun words s =>
  let s := s.withStatus 0
  let given? : Option Text × List Text := match words with
    | ['-', 'T'] :: terminal :: rest => (some terminal, rest)
    | ('-' :: 'T' :: terminal) :: rest => (some terminal, rest)
    | words => (s.value? "TERM".toList, words)
  match given? with
  | (_, [['-', 'V']]) => s.put "ncurses 6.4.20240113\n".toList
  | (none, _) => s.complain 2 "tput".toList "No value for $TERM and no -T specified".toList
  | (some _, []) => s.complain 2 "tput".toList "missing operand".toList
  | (some terminal, order :: values) =>
      let isDumb := terminal = "dumb".toList
      let isPlain := isDumb || "vt".toList.isPrefixOf terminal
      let number (i : Nat) : Nat :=
        match values[i]?.map fun t => (digitsOf 10 9 t).map Prod.fst with
        | some (some n) => n
        | _ => 0
      let escape (t : Text) : State :=
        if isDumb then s.withStatus 1 else s.put ('\x1b' :: t)
      let size (name : String) (usual : Nat) : State :=
        s.put ((s.value? name.toList).getD (Text.ofNat usual) ++ ['\n'])
      if !terminals.any fun t => t.toList.isPrefixOf terminal then
        s.complain 3 "tput".toList ("unknown terminal \x22".toList ++ terminal ++ ['\x22'])
      else
        match String.ofList order with
        | "cols" => size "COLUMNS" 80
        | "lines" => size "LINES" 24
        | "colors" => s.put ((if isPlain then "-1".toList
            else if "256color".toList.isSuffixOf terminal then "256".toList else ['8']) ++ ['\n'])
        | "bel" => s.put ['\x07']
        | "cr" => s.put ['\x0d']
        | "longname" => s.put terminal
        | "init" => s.withStatus 10
        | "reset" => s.withStatus 10
        | "setaf" => if isPlain then s.withStatus 1
            else escape ("[3".toList ++ Text.ofNat (number 0) ++ ['m'])
        | "setab" => if isPlain then s.withStatus 1
            else escape ("[4".toList ++ Text.ofNat (number 0) ++ ['m'])
        | "cup" => escape ('[' :: Text.ofNat (number 0 + 1) ++ ';' ::
            Text.ofNat (number 1 + 1) ++ ['H'])
        | name =>
            match terminalOrders.find? (·.1 == name) with
            | some (_, t) => escape t.toList
            | none => s.complain 4 "tput".toList
                ("unknown terminfo capability \x27".toList ++ order ++ ['\x27'])

/-! ### Texts, directories and conditions -/

/-- A program that shows texts page by page writes them all where there is no terminal. The names of
files stand above their texts if it says so. -/
def page (name : String) (hasTitles : Bool) : Tool := fun words s =>
  let isOption (w : Text) : Bool := (w.head? == some '-' || w.head? == some '+') && 1 < w.length
  let isUnknown (w : Text) : Bool := isOption w && w.head? == some '-' &&
    w.tail.any fun c => !"-dflpcusenNhV0123456789".toList.contains c
  if hasTitles && words.any isUnknown then s.complain 1 name.toList "invalid option".toList
  else
    let (s, texts) := (s.withStatus 0).gather name 0 (words.filter (!isOption ·))
    let rule := List.replicate 14 ':' ++ ['\n']
    s.put (texts.flatMap fun (name, t) =>
      if hasTitles && name ≠ ['-'] then rule ++ name ++ '\n' :: rule ++ t else t)

/-- The program that writes the working directory: as the environment calls it, if that is asked for
and true. -/
def tellDirectory : Tool := optioned "pwd" "LP" ["logical=L", "physical=P"] 1 fun g s =>
  let said := if g.last? "LP" = some 'L' then s.value? "PWD".toList else none
  s.put (s.truePlace said ++ ['\n'])

/-- The program that holds a condition to be closed by a bracket; alone it gives help. -/
def closedCondition : Tool := fun words s =>
  if words = ["--help".toList] || words = ["--version".toList] then
    (s.withStatus 0).put "Usage: [ EXPRESSION ]\n".toList
  else condition true words s

end KeyMenu.Sh
