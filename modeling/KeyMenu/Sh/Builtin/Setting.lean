import KeyMenu.Sh.Builtin.Declaring
import KeyMenu.Sh.Mode
import KeyMenu.Sh.Output
import KeyMenu.Sh.Start

/-!
# Switches, arguments and limits

The commands that set the switches of a shell, its arguments, the permissions of new files, limits
and nicknames of commands; and the reader of options, which goes through the arguments.
-/

namespace KeyMenu.Sh

/-- Writes by a format what a variable is given. -/
def formatInto (name : Text) (words : List Text) (s : State) : State :=
  if s.dialect = .dash then s.exit 2
  else if !isName name && (subscript? name).isNone then
    s.fail 2 "printf".toList ('\x60' :: name ++ "\x27: not a valid identifier".toList)
  else
    let (after, t) := s.captured (printf words)
    (after.withStatus 0).assignNamed name t |>.withStatus after.status

/-- Writes by a format, or gives a variable what would be written. -/
def format : Tool := fun words s =>
  match words with
  | ['-', 'v'] :: name :: words => formatInto name words s
  | ('-' :: 'v' :: c :: name) :: words =>
      if s.dialect = .bash then formatInto (c :: name) words s else s.exit 2
  | words => printf words s

/-- Calculates expressions; the last one decides. -/
def calculateAll : Tool := fun words s =>
  if words.isEmpty then s.fail 1 "let".toList "expression expected".toList
  else words.foldl (fun s word =>
    if s.isStopped then s
    else
      match s.evaluate State.evaluateFuel word with
      | .ok (n, s) => s.decided n
      | .error _ => s.fail 1 "let".toList (word ++ ": syntax error in expression".toList))
    (s.withStatus 0)

/-! ### Arguments and switches -/

/-- More words follow than one of the shells takes. -/
def isTooMuch (dialect : Dialect) (more : List Text) : Bool := dialect = .bash && !more.isEmpty

/-- Moves the arguments. -/
def shift : Tool := fun words s =>
  let counts := afterDashes s.dialect words
  let steps? : Option Int := match counts with
    | [] => some 1
    | count :: _ => number? s.dialect count
  match steps? with
  | some n =>
      if isTooMuch s.dialect counts.tail then s.abandon else
      if 0 ≤ n ∧ n.toNat ≤ s.arguments.length then
        { s with arguments := s.arguments.drop n.toNat, status := 0 }
      else s.refuseStrictly
  | none => s.refuseStrictly

/-- The switches of a shell have been changed. -/
def State.withSwitches (switches : List String) (s : State) : State :=
  { s with switches := switches, status := 0 }

/-- A switch is not known. -/
def State.refuseSwitch (s : State) : State :=
  let s := s.blame "set".toList "invalid option".toList
  if s.dialect = .dash then s.exit 2 else s.withStatus 2

/-- Sets switches, or the arguments. -/
def setSwitches : Tool
  | [], s => s.write (s.listing ++ (if s.dialect = .bash then
      (Text.sorted s.functions.names).flatMap fun name =>
        ((Table.get? s.functions name).map (Command.functionListed name)).getD [] else []))
  | ['-', '-'] :: words, s => { s with arguments := words, status := 0 }
  | ['-'] :: words, s =>
      { s with
        arguments := if words.isEmpty then s.arguments else words
        switches := s.switches.filter fun name => name != "xtrace" && name != "verbose"
        status := 0 }
  | ['+'] :: words, s => { s with arguments := words, status := 0 }
  | (sign :: letters) :: words, s =>
      if sign = '-' ∨ sign = '+' then
        let on := sign == '-'
        match Switches.turnAll? s.dialect on (letters.filter (· != 'o')) s.switches with
        | none => s.refuseSwitch
        | some switches =>
            let s := s.withSwitches (if s.isOn "restricted" && !switches.contains "restricted" then
              "restricted" :: switches else switches)
            if letters.contains 'o' then
              match words with
              | name :: words =>
                  match Switches.turnNamed? s.dialect on name s.switches with
                  | some switches =>
                      let s := s.withSwitches switches
                      if words.isEmpty then s.withStatus 0 else setSwitches words s
                  | none => s.refuseSwitch
              | [] => s.write (Switches.listed (!on) s.dialect s.switches)
            else if words.isEmpty then s.withStatus 0
            else setSwitches words s
      else { s with arguments := (sign :: letters) :: words, status := 0 }
  | words, s => { s with arguments := words, status := 0 }

/-- A line about an option of one of the shells, or the command that sets it. -/
def optionLine (isCommand : Bool) (ofSet : Bool) (name : String) (on : Bool) : Text :=
  if isCommand then
    if ofSet then "set ".toList ++ (if on then "-o " else "+o ").toList ++ name.toList ++ ['\n']
    else "shopt ".toList ++ (if on then "-s " else "-u ").toList ++ name.toList ++ ['\n']
  else name.toList ++ List.replicate (15 - name.length) ' ' ++ '\t' ::
    (if on then "on\n" else "off\n").toList

/-- Sets options by name, or tells about them. -/
def setOptions : Tool := fun words s =>
  let (letters, names) := lettersFirst words
  let ofSet := letters.contains 'o'
  let known := if ofSet then State.switchNames .bash else State.optionNames
  let isKnown (name : Text) : Bool := known.contains (String.ofList name)
  let sets := letters.contains 's'
  let s := if names.all isKnown then s
    else s.blame "shopt".toList "invalid shell option name".toList
  if (sets || letters.contains 'u') && !names.isEmpty then
    let turned := (names.filter isKnown).foldl (fun switches name =>
      Switches.turned sets (String.ofList name) switches) s.switches
    { s with switches := turned, status := if names.all isKnown then 0 else 1 }
  else
    let shown := if names.isEmpty then known.filter fun name =>
        if sets then s.isOn name else if letters.contains 'u' then !s.isOn name else true
      else (names.filter isKnown).map String.ofList
    let text := shown.flatMap fun name => optionLine (letters.contains 'p') ofSet name (s.isOn name)
    let after := if letters.contains 'q' then s.withStatus 0 else s.write text
    if names.isEmpty then after
    else after.withStatus (if names.all fun name => isKnown name && s.isOn (String.ofList name)
      then 0 else 1)

/-- Reads the next option of the arguments into a variable. -/
def nextOption : Tool
  | spec :: name :: words, s =>
      let arguments := if words.isEmpty then s.arguments else words
      let isQuiet := spec.head? = some ':'
      let place := s.optionPlace
      let index := (((s.value? "OPTIND".toList).bind (number? s.dialect)).getD 1).toNat - 1
      let index := if 0 < place && s.dialect = .dash then index - 1 else index
      let letters := (arguments[index]?).getD []
      let place := if place < letters.length then place else 0
      let finish (n place : Nat) (letter : Text) (value : Option Text) (s : State) : State :=
        let shown := if 0 < place && s.dialect = Dialect.dash then n + 1 else n
        let s := (s.assign "OPTIND".toList (Text.ofNat (shown + 1))).assignByCommand name letter
        let s := match value with
          | some value => s.assign "OPTARG".toList value
          | none => if s.dialect = Dialect.dash && letter ≠ ['?'] then s.assign "OPTARG".toList []
              else s.forget "OPTARG".toList
        { s with optionPlace := place }
      let ends (n : Nat) : State := (finish n 0 ['?'] none s).withStatus 1
      let starts := match letters with
        | '-' :: _ :: _ => true
        | _ => false
      if place = 0 && !starts then ends index
      else if place = 0 && letters = ['-', '-'] then ends (index + 1)
      else
        let place := if place = 0 then 1 else place
        let c := (letters[place]?).getD '?'
        let value := letters.drop (place + 1)
        let (next, nextPlace) := if value.isEmpty then (index + 1, 0) else (index, place + 1)
        let said := if isQuiet then s
          else s.mutter (s.name ++ ": illegal option -- ".toList ++ [c, '\n'])
        match if c = ':' then [] else spec.dropWhile (· != c) with
        | _ :: ':' :: _ =>
            if !value.isEmpty then (finish (index + 1) 0 [c] (some value) s).withStatus 0
            else
              match arguments[index + 1]? with
              | some value => (finish (index + 2) 0 [c] (some value) s).withStatus 0
              | none =>
                  if isQuiet then (finish (index + 1) 0 [':'] (some [c]) s).withStatus 0
                  else (finish (index + 1) 0 ['?'] none said).withStatus 0
        | _ :: _ => (finish next nextPlace [c] none s).withStatus 0
        | [] => (finish next nextPlace ['?'] (if isQuiet then some [c] else none)
            said).withStatus 0
  | _, s => s.fail 2 "getopts".toList "usage: getopts optstring name [arg ...]".toList

/-! ### Limits -/

/-- Sets the mask of permissions, in octal digits or in signs, or shows it. -/
def mask : Tool := fun words s =>
  let (letters, operands) := lettersFirst words
  match operands with
  | [] =>
      let t := if letters.contains 'S' then Mode.left s.mask else inWidth 4 (digitsValue
        (inBase 8 s.mask))
      s.write ((if letters.contains 'p' then
        "umask ".toList ++ (if letters.contains 'S' then "-S ".toList else [])
          else []) ++ t ++ ['\n'])
  | text :: _ =>
      if text.head?.any Char.isDigit then
        match numberIn? 8 text with
        | some n => if n ≤ 0o7777 then { s with mask := n.toNat % 512, status := 0 }
            else (s.blame "umask".toList (text ++ ": octal number out of range".toList)).refuse
        | none => (s.blame "umask".toList "Illegal number".toList).refuse
      else
        match Mode.changed? 0 false text (Mode.without 0o777 s.mask) with
        | some left =>
            let s := { s with mask := Mode.without 0o777 left, status := 0 }
            if letters.contains 'S' then s.write (Mode.left s.mask ++ ['\n']) else s
        | none => (s.blame "umask".toList "Illegal mode".toList).refuse

/-- The limits of a process by letter: what they limit, and what they are if nothing has been
said. -/
def limitTable : List (Char × String × String) :=
  [('R', "real-time non-blocking time  (microseconds, -R)", "unlimited"),
    ('c', "core file size              (blocks, -c)", "0"),
    ('d', "data seg size               (kbytes, -d)", "unlimited"),
    ('e', "scheduling priority                 (-e)", "0"),
    ('f', "file size                   (blocks, -f)", "unlimited"),
    ('i', "pending signals                     (-i)", "128604"),
    ('l', "max locked memory           (kbytes, -l)", "8192"),
    ('m', "max memory size             (kbytes, -m)", "unlimited"),
    ('n', "open files                          (-n)", "1024"),
    ('p', "pipe size                (512 bytes, -p)", "8"),
    ('q', "POSIX message queues         (bytes, -q)", "819200"),
    ('r', "real-time priority                  (-r)", "0"),
    ('s', "stack size                  (kbytes, -s)", "8192"),
    ('t', "cpu time                   (seconds, -t)", "unlimited"),
    ('u', "max user processes                  (-u)", "128604"),
    ('v', "virtual memory              (kbytes, -v)", "unlimited"),
    ('x', "file locks                          (-x)", "unlimited")]

/-- A limit; those that nothing can exceed are marked by a capital letter in front. -/
def State.limit (s : State) (isHard : Bool) (c : Char) : Text :=
  let standard := ((limitTable.find? (·.1 == c)).map fun (_, _, t) => t.toList).getD []
  let hard := (Table.get? s.limits ['H', c]).getD
    (if c = 'n' then "1048576".toList else if c = 'c' || c = 's' then "unlimited".toList
      else standard)
  if isHard then hard else (Table.get? s.limits ['S', c]).getD standard

/-- Shows limits or sets them. -/
def limits : Tool := fun words s =>
  let (letters, operands) := lettersFirst words
  let isHard := letters.contains 'H'
  let isSoft := letters.contains 'S'
  let kinds := letters.filter fun c => c != 'H' && c != 'S' && c != 'a'
  let kind := (kinds.getLast?).getD 'f'
  if letters.contains 'a' then
    s.write (limitTable.flatMap fun (c, text, _) =>
      text.toList ++ ' ' :: s.limit isHard c ++ ['\n'])
  else
    match operands with
    | [] =>
        s.write ((if kinds.isEmpty then ['f'] else kinds).flatMap fun c =>
          s.limit isHard c ++ ['\n'])
    | value :: _ =>
        let value := match String.ofList value with
          | "hard" => some (s.limit true kind)
          | "soft" => some (s.limit false kind)
          | "unlimited" => some value
          | _ => if (numberIn? 10 value).isSome then some value else none
        match value with
        | none => (s.blame "ulimit".toList "invalid number".toList).refuse
        | some value =>
            let put (c : Char) (s : State) : State :=
              { s with limits := Table.put s.limits [c, kind] value }
            let both := !isHard && !isSoft
            let s := if isHard || both then put 'H' s else s
            (if isSoft || both then put 'S' s else s).withStatus 0

/-! ### Nicknames -/

/-- Gives commands nicknames, or shows them. -/
def nickname : Tool := fun words s =>
  let shown (name text : Text) : Text :=
    if s.dialect = .dash then name ++ '=' :: singleQuote text ++ ['\n']
    else "alias ".toList ++ name ++ '=' :: singleQuote text ++ ['\n']
  let words := if words.head? = some "-p".toList && s.dialect = .bash then words.tail else words
  let words := if words.head? = some "--".toList then words.tail else words
  if words.isEmpty then
    s.write ((Text.sorted s.nicknames.names).flatMap fun name =>
      shown name ((Table.get? s.nicknames name).getD []))
  else words.foldl (fun s word =>
    match Text.splitFirst ['='] word with
    | some (c :: name, text) => { s with nicknames := Table.put s.nicknames (c :: name) text }
    | _ =>
        match Table.get? s.nicknames word with
        | some text => s.put (shown word text)
        | none => (s.blame "alias".toList (word ++ ": not found".toList)).withStatus 1)
    (s.withStatus 0)

/-- Forgets nicknames of commands. -/
def forgetNickname : Tool := fun words s =>
  if words.head? = some "-a".toList then { s with nicknames := [], status := 0 }
  else if words.isEmpty then s.withStatus (if s.dialect = .dash then 0 else 2)
  else words.foldl (fun s name =>
    if (Table.get? s.nicknames name).isSome then
      { s with nicknames := s.nicknames.filter (·.1 != name) }
    else (s.blame "unalias".toList (name ++ ": not found".toList)).withStatus 1) (s.withStatus 0)

end KeyMenu.Sh
