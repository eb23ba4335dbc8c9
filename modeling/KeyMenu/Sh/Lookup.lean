import KeyMenu.Sh.State

/-!
# Looking up files and programs

What paths lead to, as a process sees it from its working directory: files, and its own streams
under `/dev` (`State.openAt`, `State.textAt`). A program is found by its path, or along a search
path (`State.findProgram`). Patterns find the files whose names fit (`State.namesOf`).
-/

namespace KeyMenu.Sh

/-- Why a program does not run. -/
inductive LaunchFault
  | notFound
  | notADirectory
  | notPermitted
  | nameTooLong
  | tooManyLinks
  | nullCharacter
  | noProgram
  deriving DecidableEq

/-- What is wrong with the path of a program. -/
def LaunchFault.ofFault : Fault → LaunchFault
  | .notFound => .notFound
  | .notADirectory => .notADirectory
  | .nameTooLong => .nameTooLong
  | .tooManyLinks => .tooManyLinks
  | _ => .notPermitted

/-- A program that runs: one that lies on the disk by its name, or a text that is made runnable. -/
inductive Executable
  | program (name : Text)
  | script (path : Text) (text : Text)

/-- The stream for which a path stands. -/
def streamAt? (path : Text) : Option Nat :=
  match String.ofList path with
  | "/dev/stdin" => some 0
  | "/dev/stdout" => some 1
  | "/dev/stderr" => some 2
  | _ =>
      let numbered (start : String) : Option Nat :=
        let digits := path.drop start.length
        if start.toList.isPrefixOf path && !digits.isEmpty && digits.all Char.isDigit then
          some (digitsValue digits)
        else none
      (numbered "/dev/fd/").or (numbered "/proc/self/fd/")

namespace State

/-- The file to which a path leads. -/
def inodeAt (s : State) (follows : Bool) (path : Text) : Except Fault Nat :=
  s.world.store.find follows s.here path

/-- What the file to which a path leads holds. -/
def contentAt? (s : State) (path : Text) : Option Content :=
  (s.inodeAt true path).toOption.map s.world.store.content

/-- There is something at a path. -/
def has (s : State) (path : Text) : Bool :=
  match streamAt? path with
  | some n => (s.opening? n).isSome
  | none => (s.inodeAt true path).isOk

/-- There is a directory at a path. -/
def hasDirectory (s : State) (path : Text) : Bool :=
  match s.contentAt? path with
  | some (.directory _) => true
  | _ => false

/-- Opens what a path leads to, and gives the number of the open file. Who opens a queue for reading
waits until something is in it. -/
def openAt (s : State) (path : Text) (a : World.Access) : Except Fault (State × Nat) :=
  match streamAt? path with
  | some n =>
      match s.opening? n with
      | some opening => .ok (s, opening)
      | none => .error .notFound
  | none => do
      let (world, n) ← s.world.openPath s.here s.mask path a
      let s := { s with world := world }
      match (world.opening n).target with
      | .queue q => return (if a.writes then s else s.awaitQueue q, n)
      | _ => return (s, n)

/-- Reads all of what a path leads to. -/
def textAt (s : State) (path : Text) : Except Fault (State × Text) := do
  let (s, n) ← s.openAt path .read
  match (s.world.opening n).target with
  | .file inode =>
      if s.world.store.isDirectory inode then .error .isADirectory
      else
        let t := s.world.ahead n
        return ({ s with world := s.world.advance n t.length }, t)
  | _ =>
      let t := s.world.ahead n
      return ({ s with world := s.world.advance n t.length }, t)

/-- Writes a text into the file at a path. -/
def writeAt (s : State) (path t : Text) (a : World.Access) : Except Fault State := do
  let (s, n) ← s.openAt path a
  match s.world.append? n t with
  | some world => return { s with world := world }
  | none => .error .invalid

/-- Changes the files. -/
def withStore (store : Store) (s : State) : State :=
  if s.world.isRepeated then s else { s with world := { s.world with store := store } }

/-- The path of the working directory. -/
def directory (s : State) : Text := s.world.store.pathOf s.here

/-! ### Programs -/

/-- The program at a path. -/
def programAt (s : State) (path : Text) : Except LaunchFault Executable :=
  match s.inodeAt true path with
  | .error fault => .error (.ofFault fault)
  | .ok n =>
      let file := s.world.store.inode n
      if file.mode &&& 0o111 = 0 then .error .notPermitted
      else
        match file.content with
        | .program name => .ok (.program name)
        | .plain text => .ok (.script path text)
        | _ => .error .notPermitted

end State

/-- The parts of a search path. -/
def searchParts : Text → List Text
  | [] => [[]]
  | c :: rest =>
      match searchParts rest with
      | [] => [[c]]
      | part :: parts => if c = ':' then [] :: part :: parts else (c :: part) :: parts

/-- A name in a directory, where none is the working directory. -/
def inDirectory (directory name : Text) : Text :=
  if directory.isEmpty then "./".toList ++ name
  else if directory.getLast? = some '/' then directory ++ name
  else directory ++ '/' :: name

/-- Where programs are looked for if nothing is said. -/
def standardSearch : Text := "/bin:/usr/bin".toList

namespace State

/-- The first program in some directories; without one, the first fault that is more than an
absence, or else the last. -/
def firstProgram (s : State) (name : Text) (fault : LaunchFault) :
    List Text → Except LaunchFault Executable
  | [] => .error fault
  | directory :: others =>
      match s.programAt (inDirectory directory name) with
      | .ok found => .ok found
      | .error next =>
          let counts := fault == .notFound || fault == .notADirectory
          firstProgram s name (if counts then next else fault) others

/-- Finds a program: a name with a slash is a path, any other is looked for. -/
def findProgram (s : State) (search : Option Text) (name : Text) : Except LaunchFault Executable :=
  if name.contains '\x00' then .error .nullCharacter
  else if name.contains '/' then s.programAt name
  else s.firstProgram name .notFound (searchParts (search.getD standardSearch))

/-! ### Files whose names fit -/

/-- How names of files are compared with patterns. -/
def globRules (s : State) : Pattern.Rules := { s.patternRules with folds := s.isOn "nocaseglob" }

/-- The names under a directory that fit a pattern; one that begins with a dot fits only where the
pattern says so. -/
def fitting (s : State) (signs : Signs) (directory : Nat) : List Text :=
  let p := Pattern.ofSigns s.globRules (signs.widened s.shellIsWide)
  let names := s.world.store.names directory
  let isDotted := signs.head?.any (·.char == '.')
  let special := if s.dialect = .dash then [['.'], ['.', '.']] else []
  let candidates := if isDotted then special ++ names
    else if s.isOn "dotglob" then names
    else names.filter (·.head? != some '.')
  candidates.filter fun name => p.fits s.globRules.folds (widened s.shellIsWide name)

/-- The directories under a directory, with the texts that lead to them; none is hidden. -/
def directoriesUnder (s : State) : Nat → Text → Nat → List Text
  | 0, _, _ => []
  | fuel + 1, before, n =>
      let names := (s.world.store.names n).filter fun name =>
        s.isOn "dotglob" || name.head? != some '.'
      names.flatMap fun name =>
        match (Table.get? (s.world.store.entries n) name).map fun m =>
            (m, s.world.store.content m) with
        | some (m, .directory _) =>
            let next := before ++ name ++ ['/']
            next :: s.directoriesUnder fuel next m
        | _ => []

/-- The texts that lead from a directory along parts of a path that may be patterns. -/
def follow (s : State) : Text → List Signs → List Text
  | before, [] => [before]
  | before, part :: parts =>
      let p := Pattern.ofSigns s.globRules part
      let here := if before.isEmpty then ['.'] else before
      if s.isOn "globstar" && s.dialect = .bash && part = Signs.plain ['*', '*'] then
        match s.inodeAt true here with
        | .ok n =>
            let starts := before :: s.directoriesUnder 64 before n
            if parts.isEmpty then
              starts.flatMap fun start =>
                let below := (s.inodeAt true (if start.isEmpty then ['.'] else start)).toOption
                let names := (below.map s.world.store.names).getD []
                (names.filter (·.head? != some '.')).map (start ++ ·)
            else starts.flatMap fun start => s.follow start parts
        | .error _ => []
      else if !p.isOpen then
        let next := before ++ p.literal ++ (if parts.isEmpty then [] else ['/'])
        if parts.isEmpty && !part.isEmpty && !(s.inodeAt false next).isOk then []
        else s.follow next parts
      else
        match s.inodeAt true here with
        | .ok n =>
            (s.fitting part n).flatMap fun name =>
              let found := before ++ name
              if parts.isEmpty then [found]
              else if s.hasDirectory found then s.follow (found ++ ['/']) parts
              else []
        | .error _ => []

end State

/-- The program that a text in a file names in its first line, and a word for it. -/
def interpreter? (t : Text) : Option (Text × List Text) :=
  match t with
  | '#' :: '!' :: rest =>
      let isBlank (c : Char) : Bool := c == ' ' || c == '\t'
      let line := (rest.takeWhile (· != '\n')).dropWhile isBlank
      let word := (line.dropWhile (!isBlank ·)).dropWhile isBlank
      let word := (word.reverse.dropWhile isBlank).reverse
      some (line.takeWhile (!isBlank ·), if word.isEmpty then [] else [word])
  | _ => none

/-- The parts of an expanded word between slashes. -/
def slashParts : Signs → List Signs
  | [] => [[]]
  | c :: rest =>
      match slashParts rest with
      | [] => [[c]]
      | part :: parts => if c.char = '/' then [] :: part :: parts else (c :: part) :: parts

namespace State

/-- The files whose names fit an expanded word, or its text where there are none; where that is a
mistake there is nothing. -/
def namesOf? (s : State) (signs : Signs) : Option (List Text) :=
  let isStar := s.isOn "globstar" && s.dialect = .bash
  if s.isOn "noglob" || !((Pattern.ofSigns s.globRules signs).isOpen || isStar) then
    some [Signs.text signs]
  else
    let found := s.follow [] (slashParts signs)
    let found := if isStar then Text.sorted found else found
    let isOpen := (Pattern.ofSigns s.globRules signs).isOpen
    match found, isOpen with
    | [], true =>
        if s.isOn "failglob" then none
        else some (if s.isOn "nullglob" then [] else [Signs.text signs])
    | [], false => some [Signs.text signs]
    | found, _ => some found

end State

end KeyMenu.Sh
