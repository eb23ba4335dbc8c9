import KeyMenu.Sh.Mode
import KeyMenu.Sh.Regular.Reader
import KeyMenu.Sh.Tool.File

/-!
# Finding files

The program that goes through trees of directories and does something with the files it finds. What
is asked of a file is a `Criterion`, what is done with it a `Deed`, and words put both together
(`Finding`).
-/

namespace KeyMenu.Sh

/-- A number that something is to be, or to be below or above. -/
inductive Measure
  | exactly (n : Nat)
  | below (n : Nat)
  | above (n : Nat)

/-- A number is as asked for. -/
def Measure.admits : Measure → Int → Bool
  | .exactly n, m => m = (n : Int)
  | .below n, m => m < (n : Int)
  | .above n, m => (n : Int) < m

/-- Which of the times of a file counts. -/
inductive FileTime
  | modified
  | accessed
  | changed

/-- How permissions are compared: they are the same, all of some are there, or any of them. -/
inductive ModeMatch
  | same
  | all
  | any

/-- What is asked of a file. -/
inductive Criterion
  | always (holds : Bool)
  | name (p : Pattern) (folds : Bool)
  | path (p : Pattern) (folds : Bool)
  | linkTo (p : Pattern) (folds : Bool)
  | fits (r : Regular)
  | kind (letters : Text) (follows : Bool)
  | size (m : Measure) (unit : Nat)
  | isEmpty
  | laterThan (which : FileTime) (time : Int)
  | age (which : FileTime) (m : Measure) (unit : Int)
  | mode (how : ModeMatch) (bits : Nat)
  | owner (n : Nat)
  | group (n : Nat)
  | links (m : Measure)
  | number (m : Measure)
  | sameAs (n : Nat)
  | access (bits : Nat)
  | hasNoUser

/-- What is done with a file. -/
inductive Deed
  | print (limit : Char)
  | printInto (path : Text) (limit : Char)
  | format (t : Text)
  | formatInto (path t : Text)
  | list
  | run (words : List Text) (isInside asks : Bool)
  | runForAll (number : Nat) (words : List Text) (isInside : Bool)
  | delete
  | prune
  | quit

/-- What files are asked for and what is done with them. -/
inductive Finding
  | criterion (c : Criterion)
  | deed (d : Deed)
  | not (inner : Finding)
  | both (left right : Finding)
  | either (left right : Finding)
  | after (left right : Finding)

namespace Finding

/-- Something is done that is more than looking. -/
def acts : Finding → Bool
  | .criterion _ => false
  | .deed .prune => false
  | .deed .quit => false
  | .deed _ => true
  | .not inner => inner.acts
  | .both left right => left.acts || right.acts
  | .either left right => left.acts || right.acts
  | .after left right => left.acts || right.acts

/-- Files are taken away. -/
def deletes : Finding → Bool
  | .deed .delete => true
  | .not inner => inner.deletes
  | .both left right => left.deletes || right.deletes
  | .either left right => left.deletes || right.deletes
  | .after left right => left.deletes || right.deletes
  | _ => false

end Finding

/-- How deep trees are gone through, and what counts besides. -/
structure FindRules where
  most : Option Nat
  least : Nat
  isDeepFirst : Bool
  regularStyle : Text

/-- What is being read: the rules so far, how many deeds for all there are, and the words that are
left. -/
structure FindProgress where
  rules : FindRules
  groups : Nat
  words : List Text

namespace Finding

/-- A number with a sign for what is asked of it. -/
def measure? (t : Text) : Option Measure :=
  let digits := if t.head? = some '+' || t.head? = some '-' then t.tail else t
  if digits.isEmpty || !digits.all Char.isDigit then none
  else
    let n := digitsValue digits
    match t.head? with
    | some '+' => some (.above n)
    | some '-' => some (.below n)
    | _ => some (.exactly n)

/-- A size: a number and a letter for the unit. -/
def sizeCriterion? (t : Text) : Option Criterion :=
  let unit? : Option (Nat × Text) := match t.getLast? with
    | some 'c' => some (1, t.dropLast)
    | some 'w' => some (2, t.dropLast)
    | some 'b' => some (512, t.dropLast)
    | some 'k' => some (1024, t.dropLast)
    | some 'M' => some (1048576, t.dropLast)
    | some 'G' => some (1073741824, t.dropLast)
    | some c => if c.isDigit then some (512, t) else none
    | none => none
  unit?.bind fun (unit, t) => (measure? t).map (.size · unit)

/-- Permissions that are asked for. -/
def modeCriterion? (mask : Nat) (t : Text) : Option Criterion :=
  let (how, text) : ModeMatch × Text := match t with
    | '-' :: rest => (.all, rest)
    | '/' :: rest => (.any, rest)
    | rest => (.same, rest)
  (Mode.changed? 0 false text 0).map fun bits => .mode how (bits &&& (0o7777 ||| mask))

/-- An expression in the style in which some signs of repetition stand by themselves. -/
def withBackslashes : Text → Text
  | '\\' :: c :: rest =>
      (if c = '+' || c = '?' then [c] else ['\\', c]) ++ withBackslashes rest
  | c :: rest => (if c = '+' || c = '?' then ['\\', c] else [c]) ++ withBackslashes rest
  | [] => []

/-- Reads an expression that has to fit a whole path. -/
def regular? (style : Text) (folds : Bool) (t : Text) : Option Regular :=
  let extended := ["posix-extended", "egrep", "posix-egrep", "awk", "gnu-awk", "posix-awk"]
  let basic := ["posix-basic", "sed", "grep", "ed", "posix-minimal-basic"]
  let (kind, t) : Style × Text :=
    if extended.any (·.toList == style) then (.extended, t)
    else if basic.any (·.toList == style) then (.basic, t)
    else (.basic, withBackslashes t)
  Regular.ofText? { Manner.ofStyle kind with folds := folds } t

/-- The criterion that takes a value, by its name. -/
def criterion? (s : State) (rules : FindRules) (name : String) (value : Text) :
    Except Text (Option Criterion) :=
  let pattern : Pattern := Pattern.ofSigns s.patternRules (Signs.plain value)
  let wrong : Text := "invalid argument \x60".toList ++ value ++ "\x27 to \x60".toList ++
    name.toList ++ ['\x27']
  let needed (c : Option Criterion) : Except Text (Option Criterion) := match c with
    | some c => .ok (some c)
    | none => .error wrong
  let yes (c : Criterion) : Except Text (Option Criterion) := .ok (some c)
  let reference (f : Inode → Criterion) : Except Text (Option Criterion) :=
    match s.inodeAt true value with
    | .ok n => yes (f (s.world.store.inode n))
    | .error fault => .error (inQuotes value ++ ": ".toList ++ fault.message)
  let age (which : FileTime) (unit : Int) : Except Text (Option Criterion) :=
    needed ((measure? value).map fun m => .age which m unit)
  match name with
  | "-name" => yes (.name pattern false)
  | "-iname" => yes (.name pattern true)
  | "-path" => yes (.path pattern false)
  | "-wholename" => yes (.path pattern false)
  | "-ipath" => yes (.path pattern true)
  | "-iwholename" => yes (.path pattern true)
  | "-lname" => yes (.linkTo pattern false)
  | "-ilname" => yes (.linkTo pattern true)
  | "-regex" => needed ((regular? rules.regularStyle false value).map .fits)
  | "-iregex" => needed ((regular? rules.regularStyle true value).map .fits)
  | "-type" =>
      if value.all (fun c => "bcdpflsD,".toList.contains c) && !value.isEmpty then
        yes (.kind (value.filter (· != ',')) false)
      else .error ("Unknown argument to -type: ".toList ++ value)
  | "-xtype" => yes (.kind value true)
  | "-size" => needed (sizeCriterion? value)
  | "-newer" => reference fun f => .laterThan .modified f.modified
  | "-anewer" => reference fun f => .laterThan .accessed f.modified
  | "-cnewer" => reference fun f => .laterThan .changed f.modified
  | "-newermm" => reference fun f => .laterThan .modified f.modified
  | "-newermt" =>
      needed ((Moment.read? s.zone s.seconds 0 value).map fun (n, part) =>
        .laterThan .modified (n * World.second + part))
  | "-mtime" => age .modified (86400 * World.second)
  | "-atime" => age .accessed (86400 * World.second)
  | "-ctime" => age .changed (86400 * World.second)
  | "-mmin" => age .modified (60 * World.second)
  | "-amin" => age .accessed (60 * World.second)
  | "-cmin" => age .changed (60 * World.second)
  | "-perm" => needed (modeCriterion? 0 value)
  | "-user" => needed ((userNumber? value).map .owner)
  | "-group" => needed ((userNumber? value).map .group)
  | "-uid" => needed ((measure? value).map fun
      | .exactly n => .owner n
      | _ => .always true)
  | "-gid" => needed ((measure? value).map fun
      | .exactly n => .group n
      | _ => .always true)
  | "-links" => needed ((measure? value).map .links)
  | "-inum" => needed ((measure? value).map .number)
  | "-samefile" =>
      match s.inodeAt true value with
      | .ok n => yes (.sameAs n)
      | .error fault => .error (inQuotes value ++ ": ".toList ++ fault.message)
  | _ => .ok none

/-- The criteria and deeds that take no value. -/
def plain? : String → Option Finding
  | "-true" => some (.criterion (.always true))
  | "-false" => some (.criterion (.always false))
  | "-empty" => some (.criterion .isEmpty)
  | "-readable" => some (.criterion (.access 4))
  | "-writable" => some (.criterion (.access 2))
  | "-executable" => some (.criterion (.access 1))
  | "-nouser" => some (.criterion .hasNoUser)
  | "-nogroup" => some (.criterion .hasNoUser)
  | "-print" => some (.deed (.print '\n'))
  | "-print0" => some (.deed (.print '\x00'))
  | "-ls" => some (.deed .list)
  | "-delete" => some (.deed .delete)
  | "-prune" => some (.deed .prune)
  | "-quit" => some (.deed .quit)
  | "-xdev" => some (.criterion (.always true))
  | "-mount" => some (.criterion (.always true))
  | "-noleaf" => some (.criterion (.always true))
  | "-daystart" => some (.criterion (.always true))
  | "-follow" => some (.criterion (.always true))
  | "-warn" => some (.criterion (.always true))
  | "-nowarn" => some (.criterion (.always true))
  | "-ignore_readdir_race" => some (.criterion (.always true))
  | _ => none

mutual

/-- Reads lists between commas. -/
def readAll (s : State) : Nat → FindProgress → Except Text (Finding × FindProgress)
  | 0, _ => .error "expression is too long".toList
  | fuel + 1, p => do
      let (left, p) ← readEither s fuel p
      match p.words with
      | [','] :: words => do
          let (right, p) ← readAll s fuel { p with words := words }
          return (.after left right, p)
      | _ => return (left, p)

/-- Reads what one of which has to hold. -/
def readEither (s : State) : Nat → FindProgress → Except Text (Finding × FindProgress)
  | 0, _ => .error "expression is too long".toList
  | fuel + 1, p => do
      let (left, p) ← readBoth s fuel p
      match p.words with
      | word :: words =>
          if word = "-o".toList || word = "-or".toList then
            if words.isEmpty then .error "expected an expression after \x27-o\x27".toList
            else do
              let (right, p) ← readEither s fuel { p with words := words }
              return (.either left right, p)
          else return (left, p)
      | [] => return (left, p)

/-- Reads what all of which has to hold. -/
def readBoth (s : State) : Nat → FindProgress → Except Text (Finding × FindProgress)
  | 0, _ => .error "expression is too long".toList
  | fuel + 1, p => do
      let (left, p) ← readOne s fuel p
      match p.words with
      | word :: words =>
          if word = "-a".toList || word = "-and".toList then do
            let (right, p) ← readBoth s fuel { p with words := words }
            return (.both left right, p)
          else if word = "-o".toList || word = "-or".toList || word = [','] || word = [')'] then
            return (left, p)
          else do
            let (right, p) ← readBoth s fuel p
            return (.both left right, p)
      | [] => return (left, p)

/-- Reads one criterion or deed. -/
def readOne (s : State) : Nat → FindProgress → Except Text (Finding × FindProgress)
  | 0, _ => .error "expression is too long".toList
  | fuel + 1, p =>
      match p.words with
      | [] => .error "expected an expression".toList
      | word :: words => do
          let p := { p with words := words }
          let name := String.ofList word
          let missing : Text := "missing argument to \x60".toList ++ word ++ ['\x27']
          let value : Except Text (Text × FindProgress) := match words with
            | v :: words => .ok (v, { p with words := words })
            | [] => .error missing
          let done (f : Finding) : Except Text (Finding × FindProgress) := .ok (f, p)
          let holds : Finding := .criterion (.always true)
          match name with
          | "(" => do
              let (inner, p) ← readAll s fuel p
              match p.words with
              | [')'] :: words => return (inner, { p with words := words })
              | _ => .error "invalid expression; expected to find a \x27)\x27".toList
          | ")" => .error "invalid expression; you have too many \x27)\x27".toList
          | "!" => do
              let (inner, p) ← readOne s fuel p
              return (.not inner, p)
          | "-not" => do
              let (inner, p) ← readOne s fuel p
              return (.not inner, p)
          | "-depth" => return (holds, { p with rules := { p.rules with isDeepFirst := true } })
          | "-d" => return (holds, { p with rules := { p.rules with isDeepFirst := true } })
          | "-maxdepth" => do
              let (v, p) ← value
              if v.isEmpty || !v.all Char.isDigit then
                .error ("Expected a positive decimal integer argument to -maxdepth".toList)
              else return (holds, { p with rules := { p.rules with most := some (digitsValue v) } })
          | "-mindepth" => do
              let (v, p) ← value
              if v.isEmpty || !v.all Char.isDigit then
                .error ("Expected a positive decimal integer argument to -mindepth".toList)
              else return (holds, { p with rules := { p.rules with least := digitsValue v } })
          | "-regextype" => do
              let (v, p) ← value
              return (holds, { p with rules := { p.rules with regularStyle := v } })
          | "-printf" => do
              let (v, p) ← value
              return (.deed (.format v), p)
          | "-fprint" => do
              let (v, p) ← value
              return (.deed (.printInto v '\n'), p)
          | "-fprint0" => do
              let (v, p) ← value
              return (.deed (.printInto v '\x00'), p)
          | "-fprintf" => do
              let (v, p) ← value
              match p.words with
              | format :: words => return (.deed (.formatInto v format), { p with words := words })
              | [] => .error missing
          | _ =>
              if ["-exec", "-execdir", "-ok", "-okdir"].contains name then
                let isInside := name = "-execdir" || name = "-okdir"
                let asks := name = "-ok" || name = "-okdir"
                let stops (w : List Text) : Bool := w.headD [] = [';'] ||
                  (w.headD [] = ['\x7b', '\x7d'] && w.tail.headD [] = ['+'])
                let count := ((List.range words.length).find? fun n => stops (words.drop n)).getD
                  words.length
                let command := words.take count
                let rest := words.drop count
                match rest with
                | [';'] :: rest =>
                    if command.isEmpty then .error missing
                    else return (.deed (.run command isInside asks), { p with words := rest })
                | _ :: _ :: rest =>
                    return (.deed (.runForAll p.groups command isInside),
                      { p with words := rest, groups := p.groups + 1 })
                | _ => .error missing
              else
                match plain? name with
                | some f => done f
                | none =>
                    let asked ← criterion? s p.rules name (words.headD [])
                    match asked, words with
                    | some c, _ :: words => return (.criterion c, { p with words := words })
                    | some _, [] => .error missing
                    | none, _ =>
                        if word.head? = some '-' then
                          .error ("unknown predicate \x60".toList ++ word ++ ['\x27'])
                        else
                          .error ("paths must precede expression: \x60".toList ++ word ++ ['\x27'])

end

end Finding

/-! ### Going through trees -/

/-- A file that has been found: its path, where the search has begun, its number, and how deep it
lies. -/
structure FoundFile where
  path : Text
  start : Text
  number : Nat
  depth : Nat

/-- What a search has come to: the process, paths that commands wait for, whether what is under the
present directory is passed over, and whether it ends. -/
structure Searching where
  state : State
  held : List (Nat × List Text × Bool × List Text)
  isPruned : Bool
  hasQuit : Bool
  isBad : Bool

/-- The letter of the kind of a file. -/
def kindLetter (c : Content) : Char :=
  match c with
  | .directory _ => 'd'
  | .link _ => 'l'
  | .queue _ => 'p'
  | .device _ => 'c'
  | _ => 'f'

/-- The times of a file. -/
def Inode.time (file : Inode) : FileTime → Int
  | .modified => file.modified
  | .accessed => file.accessed
  | .changed => file.changed

namespace Criterion

/-- A file is as asked for. -/
def holds (s : State) (f : FoundFile) : Criterion → Bool
  | .always b => b
  | .name p folds => p.fits folds (baseName f.path)
  | .path p folds => p.fits folds f.path
  | .linkTo p folds =>
      match s.world.store.content f.number with
      | .link target => p.fits folds target
      | _ => false
  | .fits r => r.covers f.path
  | .kind letters follows =>
      let n := if follows then (s.inodeAt true f.path).toOption.getD f.number else f.number
      letters.contains (kindLetter (s.world.store.content n))
  | .size m unit => m.admits ((s.world.store.size f.number + unit - 1) / unit)
  | .isEmpty =>
      match s.world.store.content f.number with
      | .directory _ => (s.world.store.names f.number).isEmpty
      | .plain t => t.isEmpty
      | _ => false
  | .laterThan which time => time < (s.world.store.inode f.number).time which
  | .age which m unit =>
      let age := s.world.now - (s.world.store.inode f.number).time which
      match m with
      | .exactly n => age / unit = (n : Int)
      | .below n => age / unit < (n : Int)
      | .above n => (n : Int) < age / unit
  | .mode how bits =>
      let mode := (s.world.store.inode f.number).mode
      match how with
      | .same => mode = bits
      | .all => mode &&& bits = bits
      | .any => bits = 0 || mode &&& bits ≠ 0
  | .owner n => (s.world.store.inode f.number).owner = n
  | .group n => (s.world.store.inode f.number).group = n
  | .links m => m.admits (s.world.store.linkCount f.number)
  | .number m => m.admits (f.number + 2)
  | .sameAs n => f.number = n
  | .access bits =>
      bits ≠ 1 || s.world.store.isDirectory f.number ||
        (s.world.store.inode f.number).mode &&& 0o111 ≠ 0
  | .hasNoUser => 65534 < (s.world.store.inode f.number).owner

end Criterion

namespace Finding

/-- What a letter of a format says about a file. -/
def factOf (s : State) (f : FoundFile) (letter : Char) : Text :=
  let relative := (f.path.drop f.start.length).dropWhile (· == '/')
  let file := s.world.store.inode f.number
  let fact (c : Char) : Text := KeyMenu.Sh.factOf s f.path f.number c
  let epoch (t : Int) : Text := Text.ofInt (t / World.second) ++ ".0000000000".toList
  match letter with
  | 'p' => f.path
  | 'f' => baseName f.path
  | 'h' => directoryName f.path
  | 'P' => relative
  | 'H' => f.start
  | 's' => fact 's'
  | 'd' => Text.ofNat f.depth
  | 'm' => fact 'a'
  | 'M' => fact 'A'
  | 'u' => fact 'U'
  | 'g' => fact 'G'
  | 'U' => fact 'u'
  | 'G' => fact 'g'
  | 'n' => fact 'h'
  | 'i' => fact 'i'
  | 'b' => fact 'b'
  | 'k' => Text.ofNat ((blocksOf file (s.world.store.size f.number) + 1) / 2)
  | 'y' => [kindLetter file.content]
  | 'Y' => [kindLetter (s.world.store.content ((s.inodeAt true f.path).toOption.getD f.number))]
  | 'l' =>
      match file.content with
      | .link target => target
      | _ => []
  | 't' => (s.momentOf file.modified).written "%a %b %e %H:%M:%S.%N0 %Y".toList
  | 'T' => epoch file.modified
  | 'A' => epoch file.accessed
  | 'C' => epoch file.changed
  | c => ['%', c]

/-- Facts about a file by a format. -/
def written (s : State) (f : FoundFile) : Nat → Text → Text
  | 0, _ => []
  | _ + 1, [] => []
  | fuel + 1, '%' :: '%' :: rest => '%' :: written s f fuel rest
  | fuel + 1, '%' :: rest =>
      let flags := rest.takeWhile "-+ 0#".toList.contains
      let digits := (rest.drop flags.length).takeWhile Char.isDigit
      let after := rest.drop (flags.length + digits.length)
      let padded (t : Text) : Text :=
        if flags.contains '-' then leftIn (digitsValue digits) t else rightIn (digitsValue digits) t
      match after with
      | [] => ['%']
      | c :: rest =>
          if c = 'T' || c = 'A' || c = 'C' then
            let file := s.world.store.inode f.number
            let time := if c = 'T' then file.modified else if c = 'A' then file.accessed
              else file.changed
            match rest with
            | '@' :: rest => padded (factOf s f c) ++ written s f fuel rest
            | k :: rest => padded ((s.momentOf time).written ['%', k]) ++ written s f fuel rest
            | [] => []
          else padded (factOf s f c) ++ written s f fuel rest
  | fuel + 1, c :: rest => c :: written s f fuel rest

/-- The text of a file's path in a word. -/
def putPath (path : Text) : Nat → Text → Text
  | fuel + 1, '\x7b' :: '\x7d' :: rest => path ++ putPath path fuel rest
  | fuel + 1, c :: rest => c :: putPath path fuel rest
  | _, t => t

/-- Runs a command, in the directory of a path if asked for. -/
def runWords (r : Runners) (isInside : Bool) (path : Text) (words : List Text)
    (s : State) : State :=
  if isInside then
    match s.inodeAt true (directoryName path) with
    | .ok n =>
        let after := r.call words { s with here := n, place := s.world.store.pathOf n }
        { after with here := s.here, place := s.place }
    | .error _ => s.withStatus 1
  else r.call words s

/-- How a path is given to a command. -/
def givenPath (isInside : Bool) (path : Text) : Text :=
  if isInside then "./".toList ++ baseName path else path

/-- Does something with a file; whether that has gone well. -/
def doOne (r : Runners) (f : FoundFile) (d : Deed) (e : Searching) : Bool × Searching :=
  let s := e.state
  let put (t : Text) : Bool × Searching := (true, { e with state := s.put t })
  let save (path t : Text) : Bool × Searching :=
    match s.writeAt path t .append with
    | .ok s => (true, { e with state := s })
    | .error _ => (false, { e with isBad := true })
  let formatted (t : Text) : Text :=
    let (t, _) := Escape.decode true true (t.length + 1) t
    written s f (t.length + 1) t
  match d with
  | .print limit => put (f.path ++ [limit])
  | .printInto path limit => save path (f.path ++ [limit])
  | .format t => put (formatted t)
  | .formatInto path t => save path (formatted t)
  | .list =>
      let line := Text.joinWith [' '] ((Listed.columns ⟨[], []⟩ s
        ⟨f.path, f.number, s.world.store.inode f.number⟩) ++ [f.path])
      put (Text.ofNat (f.number + 2) ++ ' ' :: line ++ ['\n'])
  | .prune => (true, { e with isPruned := true })
  | .quit => (true, { e with hasQuit := true })
  | .delete =>
      if f.path = ['.'] then (true, e)
      else
        let before := s.status
        let after := (if s.world.store.isDirectory f.number then removeDirectories else unlink)
          ["--".toList, f.path] (s.withStatus 0)
        (after.status = 0, { e with
          state := after.withStatus before
          isBad := e.isBad || after.status ≠ 0 })
  | .run words isInside asks =>
      let (s, agreed) := if asks then
          s.agrees ("< ".toList ++ words.headD [] ++ " ... ".toList ++ f.path ++ " > ? ".toList)
        else (s, true)
      if !agreed then (false, { e with state := s })
      else
        let words := words.map fun w => putPath (givenPath isInside f.path) (w.length + 1) w
        let after := runWords r isInside f.path words s
        if after.isStopped then (false, { e with state := after, hasQuit := true })
        else (after.status = 0, { e with state := after.withStatus s.status })
  | .runForAll number words isInside =>
      let held := match e.held.find? (·.1 == number) with
        | some (_, _, _, paths) => (number, words, isInside, paths ++ [f.path])
        | none => (number, words, isInside, [f.path])
      (true, { e with held := held :: e.held.filter (·.1 != number) })

/-- Asks a file, and does what is to be done. -/
def apply (r : Runners) (f : FoundFile) : Finding → Searching → Bool × Searching
  | .criterion c, e => (c.holds e.state f, e)
  | .deed d, e => if e.hasQuit then (false, e) else doOne r f d e
  | .not inner, e =>
      let (b, e) := apply r f inner e
      (!b, e)
  | .both left right, e =>
      let (b, e) := apply r f left e
      if b then apply r f right e else (false, e)
  | .either left right, e =>
      let (b, e) := apply r f left e
      if b then (true, e) else apply r f right e
  | .after left right, e => apply r f right (apply r f left e).2

/-- Goes through a tree. -/
def goThrough (r : Runners) (rules : FindRules) (finding : Finding) (follows : Bool) :
    Nat → FoundFile → Searching → Searching
  | 0, _, e => e
  | fuel + 1, f, e =>
      if e.hasQuit || e.state.isStopped then e
      else
        let visit (e : Searching) : Searching :=
          if f.depth < rules.least || e.hasQuit || e.state.isStopped then e
          else (apply r f finding e).2
        let e := { e with isPruned := false }
        let e := if rules.isDeepFirst then e else visit e
        let store := e.state.world.store
        let isDeep := rules.most.all (f.depth < ·)
        let e :=
          if !store.isDirectory f.number || !isDeep || (e.isPruned && !rules.isDeepFirst) then e
          else
            (store.names f.number).foldl (fun e name =>
              let store := e.state.world.store
              match Table.get? (store.entries f.number) name with
              | none => e
              | some n =>
                  let path := under f.path name
                  let n := if follows then (e.state.inodeAt true path).toOption.getD n else n
                  goThrough r rules finding follows fuel ⟨path, f.start, n, f.depth + 1⟩ e) e
        if rules.isDeepFirst then visit e else e

/-- Runs the commands that wait for all paths. -/
def finish (r : Runners) (e : Searching) : Searching :=
  e.held.reverse.foldl (fun e (_, words, isInside, paths) =>
    if e.state.isStopped then e
    else if isInside then
      paths.foldl (fun e path =>
        let after := runWords r true path (words ++ [givenPath true path]) e.state
        { e with state := after, isBad := e.isBad || after.status ≠ 0 }) e
    else
      let after := r.call (words ++ paths) e.state
      { e with state := after, isBad := e.isBad || after.status ≠ 0 }) { e with held := [] }

end Finding

/-- Finds files. -/
def find : Agent := fun r words s =>
  let who := "find".toList
  let fail (message : Text) : State := s.complain 1 who message
  let options := words.takeWhile fun w => ["-H", "-L", "-P", "-O", "-O1", "-O2", "-O3"].any
    (·.toList == w)
  let follows := options.getLast? = some "-L".toList
  let words := words.drop options.length
  let isPath (w : Text) : Bool := match w with
    | '-' :: _ :: _ => false
    | ['('] => false
    | ['!'] => false
    | [')'] => false
    | _ => true
  let paths := words.takeWhile isPath
  let words := words.drop paths.length
  let start : FindProgress := ⟨⟨none, 0, false, []⟩, 0, words⟩
  let read : Except Text (Finding × FindProgress) :=
    if words.isEmpty then .ok (.criterion (.always true), start)
    else Finding.readAll s (20 * (words.length + 2)) start
  if words.any fun w => w = "--help".toList || w = "-help".toList
      then s.write "Usage: find\n".toList
  else if words.any fun w => w = "--version".toList || w = "-version".toList then
    s.write "find (GNU findutils) 4.9.0\n".toList
  else
    match read with
    | .error message => fail message
    | .ok (finding, p) =>
        match p.words with
        | word :: _ =>
            fail (if word = [')'] then "invalid expression; you have too many \x27)\x27".toList
              else "paths must precede expression: \x60".toList ++ word ++ ['\x27'])
        | [] =>
            let rules := if finding.deletes then { p.rules with isDeepFirst := true } else p.rules
            let finding := if finding.acts then finding
              else .both finding (.deed (.print '\n'))
            let paths := if paths.isEmpty then [['.']] else paths
            let e := paths.foldl (fun (e : Searching) path =>
              if e.hasQuit || e.state.isStopped then e
              else
                let followsHere := follows || options.getLast? = some "-H".toList
                match (e.state.inodeAt followsHere path).toOption.or
                    (e.state.inodeAt false path).toOption with
                | some n => Finding.goThrough r rules finding follows 200 ⟨path, path, n, 0⟩ e
                | none =>
                    let fault := match e.state.inodeAt false path with
                      | .error fault => fault
                      | .ok _ => .notFound
                    { e with
                      state := e.state.complain 1 who (inQuotes path ++ ": ".toList ++
                        fault.message)
                      isBad := true })
              (⟨s.withStatus 0, [], false, false, false⟩ : Searching)
            let e := Finding.finish r e
            if e.state.isStopped then e.state
            else e.state.withStatus (if e.isBad then 1 else 0)

/-- A number behind a sign is to be passed. -/
example : ((Finding.measure? "+3".toList).map fun m => (m.admits 3, m.admits 4)) =
    some (false, true) := by decide +kernel

end KeyMenu.Sh
