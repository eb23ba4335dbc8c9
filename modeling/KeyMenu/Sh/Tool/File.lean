import KeyMenu.Sh.Tool.Look

/-!
# Programs that change files

The programs that make, copy, move and take away files and directories, or change what is known of
them.
-/

namespace KeyMenu.Sh

namespace State

/-- Where a path leads from the working directory: the directory, the name in it, and the file. -/
def placeAt (s : State) (follows : Bool) (path : Text) : Except Fault (Nat × Text × Option Nat) :=
  s.world.store.place follows s.here path

/-- Where a new name may be made; a path with slashes at its end is meant without them. -/
def newPlace (s : State) (path : Text) : Except Fault (Nat × Text × Option Nat) :=
  if path.isEmpty then .error .notFound else s.placeAt false (withoutSlashes path)

/-- Changes what is known of a file. -/
def changeInode (n : Nat) (f : Inode → Inode) (s : State) : State :=
  s.withStore (s.world.store.update n fun file => { f file with changed := s.world.now })

/-- The permissions of a new file. -/
def newMode (s : State) (full : Nat) : Nat := Mode.without full s.mask

/-- A program asks a question; the next line of the input answers it. -/
def agrees (question : Text) (s : State) : State × Bool :=
  let s := s.mutter question
  let line := (s.ahead 0).takeWhile (· != '\n')
  (s.advance 0 (line.length + 1), line.head?.any fun c => c == 'y' || c == 'Y')

end State

/-! ### Times -/

/-- The moment that twelve digits say: the year may lack its century or be this one, and seconds may
follow a point. -/
def stampedTime? (zone : Zone) (year : Int) (t : Text) : Option Int :=
  let (digits, second) := (Text.splitFirst ['.'] t).getD (t, "00".toList)
  if !(digits ++ second).all Char.isDigit || second.length ≠ 2 then none
  else
    let part (n : Nat) : Nat := digitsValue ((digits.drop (digits.length - 8 + n)).take 2)
    let year? : Option Int := match digits.length with
      | 8 => some year
      | 10 =>
          let y := digitsValue (digits.take 2)
          some (if y < 69 then 2000 + y else 1900 + y)
      | 12 => some (digitsValue (digits.take 4))
      | _ => none
    year?.bind fun year =>
      if part 0 < 1 || 12 < part 0 || part 2 < 1 || 31 < part 2 || 23 < part 4 ||
          59 < part 6 then none
      else some (Moment.seconds ⟨year, part 0, part 2, part 4, part 6, digitsValue second, 0, zone⟩)

/-- Sets the times of files, and makes those that are missing. -/
def touch : Tool := optioned "touch" "acd:fhmr:t:"
    ["no-create=c", "date=d", "no-dereference=h", "reference=r", "time:"] 1 fun g s =>
  let now := s.world.now
  let said : Option (Int × Int) := match g.value? 'r', g.value? 'd', g.value? 't' with
    | some path, _, _ => (s.inodeAt true path).toOption.map fun n =>
        ((s.world.store.inode n).accessed, (s.world.store.inode n).modified)
    | none, some t, _ => (Moment.read? s.zone s.seconds 0 t).map fun (n, nano) =>
        (n * World.second + nano, n * World.second + nano)
    | none, none, some t =>
        (stampedTime? s.zone (s.momentOf now).year t).map fun n =>
          (n * World.second, n * World.second)
    | none, none, none => some (now, now)
  let which := (g.longValue? "time").map String.ofList
  let onlyAccess := (g.has 'a' && !g.has 'm') || which == some "access" || which == some "atime"
  let onlyModified := (g.has 'm' && !g.has 'a') || which == some "modify" || which == some "mtime"
  match said with
  | none => s.complain 1 "touch".toList "invalid date format".toList
  | some (accessed, modified) =>
      if g.operands.isEmpty then s.complain 1 "touch".toList "missing file operand".toList
      else g.operands.foldl (fun s path =>
        let set (n : Nat) (s : State) : State := s.changeInode n fun file =>
          { file with
            accessed := if onlyModified then file.accessed else accessed
            modified := if onlyAccess then file.modified else modified }
        match s.inodeAt (!g.has 'h') path with
        | .ok n => set n s
        | .error fault =>
            if fault = .notFound && (g.has 'c' || g.has 'h') then s
            else
              match s.openAt path ⟨false, true, false, false, true, false⟩ with
              | .ok (s, opening) =>
                  match (s.world.opening opening).target with
                  | .file n => set n s
                  | _ => s
              | .error fault => s.failOver 1 "touch".toList "cannot touch ".toList path fault) s

/-! ### Making -/

/-- Makes a directory; its permissions are those that the mask leaves unless they are said. -/
def makeDirectory (who : String) (mode : Option Text) (path : Text) (s : State) : Except
    Fault State := do
  let (directory, name, found) ← s.newPlace path
  if found.isSome then .error .exists
  else
    let base := s.newMode 0o777
    let bits := (mode.bind fun text => Mode.changed? s.mask true text 0o777).getD base
    .ok (s.withStore (s.world.store.createDirectory directory name
      (if who.isEmpty then base else bits) s.world.now).1)

/-- Makes a directory and all directories on the way to it. -/
def makeWay (who : String) (mode : Option Text) (path : Text) (s : State) : Except Fault State :=
  let names := path.slashPieces.filter (!·.isEmpty)
  let start : Text := if path.head? = some '/' then ['/'] else []
  ((List.range names.length).foldlM (fun s n =>
    let part := start ++ Text.joinWith ['/'] (names.take (n + 1))
    match s.inodeAt true part with
    | .ok found => if s.world.store.isDirectory found then .ok s
        else .error (if n + 1 = names.length then .exists else .notADirectory)
    | .error .notFound =>
        makeDirectory who (if n + 1 = names.length then mode else none) part s
    | .error fault => .error fault) s)

/-- Makes directories. -/
def makeDirectories : Tool := onEach "mkdir" "m:pvZ" ["mode=m", "parents=p",
    "verbose=v", "context?"]
    fun g path s =>
  let mode := g.value? 'm'
  if mode.any fun t => (Mode.changed? s.mask true t 0o777).isNone then
    s.complain 1 "mkdir".toList "invalid mode".toList
  else
    match if g.has 'p' then makeWay "mkdir" mode path s else makeDirectory "mkdir" mode path s with
    | .ok s => if g.has 'v' then
        s.put ("mkdir: created directory ".toList ++ inQuotes path ++ ['\n']) else s
    | .error fault => s.failOver 1 "mkdir".toList "cannot create directory ".toList path fault

/-- Makes queues that have names. -/
def makeQueues : Tool := onEach "mkfifo" "m:Z" ["mode=m", "context?"] fun g path s =>
  match s.newPlace path with
  | .ok (directory, name, none) =>
      let (world, q) := s.world.addQueue []
      let mode := ((g.value? 'm').bind fun t => Mode.changed? s.mask false t 0o666).getD
        (s.newMode 0o666)
      let s := { s with world := world }
      s.withStore (s.world.store.create directory name (.queue q) mode s.world.now).1
  | .ok _ => s.failOver 1 "mkfifo".toList "cannot create fifo ".toList path .exists
  | .error fault => s.failOver 1 "mkfifo".toList "cannot create fifo ".toList path fault

/-- Makes a file of another kind; only queues can be made. -/
def makeNode : Tool := fun words s =>
  match words.filter (·.head? != some '-') with
  | [name, ['p']] => makeQueues [name] s
  | _ => s.complain 1 "mknod".toList "missing operand".toList

/-! ### Taking away -/

/-- Takes a name out of a directory, with all that is under it. -/
def Store.removeTree (now : Int) : Nat → Store → Nat → Text → Store
  | 0, s, _, _ => s
  | fuel + 1, s, directory, name =>
      match Table.get? (s.entries directory) name with
      | none => s
      | some n =>
          if s.isDirectory n then
            let emptied := (s.names n).foldl (fun s inner => removeTree now fuel s n inner) s
            (emptied.update n fun d => { d with content := .directory [] }).leave directory name now
          else (s.update n fun file => { file with changed := now }).leave directory name now

/-- Directories may stand inside each other so deep. -/
def treeDepth : Nat := 200

/-- Takes empty directories away. -/
def removeDirectories : Tool := onEach "rmdir" "pv"
    ["parents=p", "verbose=v", "ignore-fail-on-non-empty"] fun g path s =>
  let one (path : Text) (s : State) : Except Fault State := do
    let (directory, name, found) ← s.newPlace path
    if (baseName path) = ['.'] then .error .invalid
    else
      match found with
      | none => .error .notFound
      | some n =>
          if !s.world.store.isDirectory n then .error .notADirectory
          else if !(s.world.store.names n).isEmpty || n = Store.root then .error .notEmpty
          else .ok (s.withStore (s.world.store.removeTree s.world.now treeDepth directory name))
  let names := (withoutSlashes path).slashPieces
  let parts := if g.has 'p' then
      (List.range names.length).map fun n => Text.joinWith ['/'] (names.take (names.length - n))
    else [path]
  parts.foldl (fun s part =>
    if s.status ≠ 0 && g.has 'p' then s
    else
      match one part s with
      | .ok s => if g.has 'v' then
          s.put ("rmdir: removing directory, ".toList ++ inQuotes part ++ ['\n']) else s
      | .error .notEmpty =>
          if g.hasLong "ignore-fail-on-non-empty" then s
          else s.failOver 1 "rmdir".toList "failed to remove ".toList part .notEmpty
      | .error fault => s.failOver 1 "rmdir".toList "failed to remove ".toList part fault) s

/-- The lines that tell what is taken away with a directory. -/
def removedLines (store : Store) : Nat → Text → Nat → Text
  | 0, _, _ => []
  | fuel + 1, path, n =>
      if store.isDirectory n then
        ((store.names n).flatMap fun name =>
          ((Table.get? (store.entries n) name).map (removedLines store fuel (under path name))).getD
            []) ++ "removed directory ".toList ++ inQuotes path ++ ['\n']
      else "removed ".toList ++ inQuotes path ++ ['\n']

/-- Takes files away, and directories with all that is in them where that is asked for. -/
def removeFiles : Tool := optioned "rm" "dfiIrRv"
    ["dir=d", "force=f", "interactive?", "one-file-system", "no-preserve-root", "preserve-root?",
      "recursive=r", "verbose=v"] 1 fun g s =>
  let isDeep := g.has 'r' || g.has 'R'
  let isForced := g.last? "fiI" = some 'f'
  let asks := g.last? "fiI" = some 'i' || g.longValue? "interactive" = some "always".toList
  if g.operands.isEmpty then if g.has 'f' then s else s.missOperand "rm" 1
  else g.operands.foldl (fun s path =>
    let refused (fault : Fault) : State :=
      s.failOver 1 "rm".toList "cannot remove ".toList path fault
    let last := baseName path
    match if path.isEmpty then .error .notFound else s.placeAt false (withoutSlashes path) with
    | .error fault => if isForced && (fault = .notFound || fault = .notADirectory) then s
        else refused fault
    | .ok (_, _, none) => if isForced then s else refused .notFound
    | .ok (directory, name, some n) =>
        let isDirectory := s.world.store.isDirectory n
        if isDirectory && !isDeep && !(g.has 'd') then refused .isADirectory
        else if !isDirectory && path.getLast? = some '/' then refused .notADirectory
        else if last = ['.'] || last = ['.', '.'] || n = Store.root then
          s.complain 1 "rm".toList
            ("refusing to remove \x27.\x27 or \x27..\x27 directory: skipping ".toList ++
            inQuotes path)
        else if isDirectory && !isDeep && !(s.world.store.names n).isEmpty then refused .notEmpty
        else
          let (s, agreed) := if asks then s.agrees ("rm: remove ".toList ++
              inQuotes path ++ "? ".toList)
            else (s, true)
          if !agreed then s
          else
            let text := if g.has 'v' then removedLines s.world.store treeDepth path n else []
            (s.withStore (s.world.store.removeTree s.world.now treeDepth directory name)).put text)
              s

/-- Takes one name away. -/
def unlink : Tool := fun words s =>
  match words.filter (· ≠ "--".toList) with
  | [path] =>
      match s.placeAt false path with
      | .ok (directory, name, some n) =>
          if s.world.store.isDirectory n then
            s.failOver 1 "unlink".toList "cannot unlink ".toList path .isADirectory
          else (s.withStore (s.world.store.removeTree s.world.now 1 directory name)).withStatus 0
      | .ok _ => s.failOver 1 "unlink".toList "cannot unlink ".toList path .notFound
      | .error fault => s.failOver 1 "unlink".toList "cannot unlink ".toList path fault
  | _ => s.missOperand "unlink" 1

/-! ### Copying and moving -/

/-- How files are copied: directories with all that is in them, links as links, with their
permissions and times, only as names, or by links. -/
structure Copying where
  isDeep : Bool
  keepsLinks : Bool
  preserves : Bool
  byNames : Bool
  byLinks : Bool
  mode : Option Nat

/-- Copies a file under a name in a directory, which may be there already. -/
def copyInto (c : Copying) (mask : Nat) (now : Int) : Nat → Store → Nat → Nat → Text →
    Except Fault Store
  | 0, s, _, _, _ => .ok s
  | fuel + 1, s, n, directory, name =>
      let file := s.inode n
      let there := Table.get? (s.entries directory) name
      let timed (s : Store) (m : Nat) : Store := if c.preserves then
          s.update m fun new => { new with
            mode := file.mode
            modified := file.modified
            accessed := file.accessed
            owner := file.owner
            group := file.group }
        else s
      match file.content with
      | .directory _ =>
          if !c.isDeep then .error .isADirectory
          else
            match there with
            | some m => if s.isDirectory m then inside s m fuel n timed else .error .notADirectory
            | none =>
                let (s, m) := s.createDirectory directory name (Mode.without file.mode mask) now
                inside s m fuel n timed
      | content =>
          let kept := match content with
            | .link _ => content
            | .program _ => content
            | .queue _ => if c.isDeep then content else .plain []
            | .plain _ => content
            | _ => .plain []
          match there.map fun m => (m, s.content m) with
          | some (m, .directory _) => if m = n then .error .exists else .error .isADirectory
          | some (m, old) =>
              let isLinkNow := match content, old with
                | .link _, _ => true
                | _, .link _ => c.byNames || c.byLinks
                | _, _ => false
              if isLinkNow || c.byNames then
                .ok (timed (fresh s directory name kept file.mode n) n)
              else
                .ok (timed (s.update m fun old => { old with
                  content := kept
                  modified := now
                  changed := now }) m)
          | none =>
              let s := fresh s directory name kept file.mode n
              match Table.get? (s.entries directory) name with
              | some m => .ok (if c.byNames then s else timed s m)
              | none => .ok s
where
  /-- A new file under the name. -/
  fresh (s : Store) (directory : Nat) (name : Text) (content : Content) (mode n : Nat) : Store :=
    if c.byNames then s.enter directory name n now
    else (s.create directory name content
      (match content with
        | .link _ => 0o777
        | _ => c.mode.getD (Mode.without mode mask)) now).1
  /-- Copies what is in a directory into another one. -/
  inside (s : Store) (m fuel n : Nat) (timed : Store → Nat → Store) : Except Fault Store := do
    let copied ← (s.names n).foldlM (fun s inner =>
      match Table.get? (s.entries n) inner with
      | some k => if k = m then .ok s else copyInto c mask now fuel s k m inner
      | none => .ok s) s
    return timed copied m

/-- Where something comes to stand: in a directory it keeps its name. -/
def destination (s : State) (source target : Text) (isPlain : Bool) :
    Except Fault (Nat × Text × Option Nat × Text) :=
  match if isPlain then .error .notFound else s.inodeAt true target with
  | .ok n =>
      if s.world.store.isDirectory n then
        let name := baseName source
        let name := if name = ['.', '.'] || name = ['.'] then ['.'] else name
        .ok (n, name, Table.get? (s.world.store.entries n) name, under target name)
      else if target.getLast? = some '/' then .error .notADirectory
      else (s.placeAt true target).map fun (d, name, found) => (d, name, found, target)
  | .error _ =>
      if target.getLast? = some '/' && !s.hasDirectory source then .error .notADirectory
      else (s.newPlace target).map fun (d, name, found) => (d, name, found, target)

/-- The words of a program that copies or moves: what is copied, and where to. -/
def sourcesAndTarget (g : Given) : Option (List Text × Text) :=
  match g.value? 't' with
  | some target => if g.operands.isEmpty then none else some (g.operands, target)
  | none =>
      match g.operands.getLast?, g.operands.dropLast with
      | some target, source :: more => some (source :: more, target)
      | _, _ => none

/-- A file that is there may stay as it is: where that is asked for, where it is newer, or where the
answer to a question says so. -/
def staysAsItIs (who : String) (g : Given) (path : Text) (source : Nat) (found : Option Nat)
    (s : State) : State × Bool :=
  match found with
  | none => (s, false)
  | some n =>
      let time (n : Nat) : Int := (s.world.store.inode n).modified
      let update := g.longValue? "update"
      if g.last? "nif" = some 'n' || update = some "none".toList then (s, true)
      else if (g.has 'u' || update = some "older".toList) && time source ≤ time n then (s, true)
      else if g.last? "nif" = some 'i' then
        let (s, agreed) := s.agrees (who.toList ++ ": overwrite ".toList ++ inQuotes path ++
          "? ".toList)
        (s, !agreed)
      else (s, false)

/-- Keeps a file that is there under another name. -/
def backUp (g : Given) (directory : Nat) (name : Text) (found : Option Nat) (s : State) : State :=
  match found with
  | some n =>
      if g.has 'b' || g.hasLong "backup" then
        let suffix := (g.value? 'S').getD ['~']
        s.withStore (s.world.store.enter directory (name ++ suffix) n s.world.now |>.leave directory
          name s.world.now)
      else s
  | none => s

/-- Moves one file or directory. -/
def moveOne (g : Given) (target source : Text) (s : State) : State :=
  let who := "mv".toList
  match s.placeAt false (withoutSlashes source) with
  | .error fault => s.failOver 1 who "cannot stat ".toList source fault
  | .ok (_, _, none) => s.failOver 1 who "cannot stat ".toList source .notFound
  | .ok (from', name, some n) =>
      match destination s source target (g.has 'T') with
      | .error fault => s.failOver 1 who ("cannot move ".toList ++ inQuotes source ++ " to ".toList)
          target fault
      | .ok (directory, newName, found, path) =>
          let store := s.world.store
          let isDirectory := store.isDirectory n
          let isInside := isDirectory && (directory = n ||
            (store.pathOf n ++ ['/']).isPrefixOf (store.pathOf directory ++ ['/']))
          let (s, stays) := staysAsItIs "mv" g path n found s
          if stays then s
          else if found = some n then
            s.complain 1 who (inQuotes source ++ " and ".toList ++ inQuotes path ++
              " are the same file".toList)
          else if isInside then
            s.complain 1 who ("cannot move ".toList ++ inQuotes source ++
              " to a subdirectory of itself".toList)
          else
            match found with
            | some m =>
                if store.isDirectory m && !isDirectory then
                  s.complain 1 who ("cannot overwrite directory ".toList ++ inQuotes path ++
                    " with non-directory".toList)
                else if isDirectory && !store.isDirectory m then
                  s.complain 1 who ("cannot overwrite non-directory ".toList ++ inQuotes path)
                else if isDirectory && !(store.names m).isEmpty then
                  s.failOver 1 who "cannot overwrite ".toList path .notEmpty
                else finish (backUp g directory newName found s) from' name directory newName n path
            | none => finish s from' name directory newName n path
where
  /-- The name goes from one place to the other. -/
  finish (s : State) (from' : Nat) (name : Text) (directory : Nat) (newName : Text) (n : Nat)
      (path : Text) : State :=
    let s := s.withStore (s.world.store.move from' name directory newName n s.world.now)
    if g.has 'v' then
      s.put ("renamed ".toList ++ inQuotes source ++ " -> ".toList ++ inQuotes path ++ ['\n'])
    else s

/-- The target has to be a directory where there are several sources. -/
def needsDirectory (g : Given) (sources : List Text) (target : Text) (s : State) : Bool :=
  (1 < sources.length || g.has 't') && !s.hasDirectory target

/-- Moves files to a target. -/
def move : Tool := optioned "mv" "bfinS:t:TuvZ"
    ["backup?", "force=f", "interactive=i", "no-clobber=n", "strip-trailing-slashes", "suffix=S",
      "target-directory=t", "no-target-directory=T", "update?", "verbose=v",
        "context=Z"] 1 fun g s =>
  match sourcesAndTarget g with
  | none => s.complain 1 "mv".toList "missing file operand".toList
  | some (sources, target) =>
      if needsDirectory g sources target s then
        s.failOver 1 "mv".toList "target ".toList target .notADirectory
      else sources.foldl (fun s source => moveOne g target source s) s

/-- Copies one file or directory. -/
def copyOne (g : Given) (c : Copying) (target source : Text) (s : State) : State :=
  let who := "cp".toList
  match s.inodeAt (!c.keepsLinks) source with
  | .error fault => s.failOver 1 who "cannot stat ".toList source fault
  | .ok n =>
      let target := if g.hasLong "parents" then under target (directoryName source) else target
      let s := if g.hasLong "parents" then ((makeWay "" none target s).toOption).getD s else s
      if s.world.store.isDirectory n && !c.isDeep then
        s.complain 1 who ("-r not specified; omitting directory ".toList ++ inQuotes source)
      else
        match destination s source target (g.has 'T') with
        | .error fault => s.failOver 1 who "cannot create regular file ".toList target fault
        | .ok (directory, name, found, path) =>
            let store := s.world.store
            let isInside := store.isDirectory n && (directory = n ||
              (store.pathOf n ++ ['/']).isPrefixOf (store.pathOf directory ++ ['/']))
            let followed : Option Nat := found.map fun m =>
              match store.content m with
              | .link _ => ((s.inodeAt true path).toOption).getD m
              | _ => m
            let (s, stays) := staysAsItIs "cp" g path n found s
            if stays then s
            else if followed = some n && !store.isDirectory n then
              if c.byNames then s
              else s.complain 1 who (inQuotes source ++ " and ".toList ++ inQuotes path ++
                " are the same file".toList)
            else if isInside then
              s.complain 1 who ("cannot copy a directory, ".toList ++ inQuotes source ++
                ", into itself, ".toList ++ inQuotes path)
            else
              let s := backUp g directory name found s
              let isDevice := found.any fun m => (s.world.store.content m matches .device _)
              let result : Except Fault State :=
                if isDevice then .ok s
                else if c.byLinks then
                  if found.isSome then .error .exists
                  else .ok (s.withStore (s.world.store.create directory name (.link source) 0o777
                    s.world.now).1)
                else
                  (copyInto c s.mask s.world.now treeDepth s.world.store n directory name).map
                    fun store => s.withStore store
              match result with
              | .ok s => if g.has 'v' then
                  s.put (inQuotes source ++ " -> ".toList ++ inQuotes path ++ ['\n']) else s
              | .error .isADirectory =>
                  s.complain 1 who ("cannot overwrite directory ".toList ++ inQuotes path ++
                    " with non-directory".toList)
              | .error .notADirectory =>
                  s.complain 1 who ("cannot overwrite non-directory ".toList ++ inQuotes path ++
                    " with directory ".toList ++ inQuotes source)
              | .error fault => s.failOver 1 who "cannot create ".toList path fault

/-- Copies files to a target. -/
def copy : Tool := optioned "cp" "abdfHilLnpPrRsS:t:TuvxZ"
    ["archive=a", "attributes-only", "backup?", "copy-contents", "debug",
      "dereference=L", "force=f",
      "interactive=i", "link=l", "no-clobber=n", "no-dereference=P", "preserve?", "no-preserve:",
      "parents", "recursive=R", "reflink?", "remove-destination", "sparse:",
      "strip-trailing-slashes", "symbolic-link=s", "suffix=S", "target-directory=t",
      "no-target-directory=T", "update?", "verbose=v", "one-file-system=x", "context?"] 1 fun g s =>
  let isDeep := ['r', 'R', 'a'].any (g.has ·)
  let c : Copying :=
    { isDeep := isDeep
      keepsLinks := match g.last? "adHLP" with
        | some 'L' => false
        | some 'H' => false
        | some _ => true
        | none => isDeep
      preserves := g.has 'a' || g.has 'p' || g.hasLong "preserve"
      byNames := g.has 'l'
      byLinks := g.has 's'
      mode := none }
  match sourcesAndTarget g with
  | none => s.complain 1 "cp".toList "missing file operand".toList
  | some (sources, target) =>
      if needsDirectory g sources target s || (g.hasLong "parents" && !s.hasDirectory target) then
        s.failOver 1 "cp".toList "target ".toList target .notADirectory
      else sources.foldl (fun s source => copyOne g c target source s) s

/-- Makes a second name for a file, or a link to it. -/
def nameOne (g : Given) (target source : Text) (s : State) : State :=
  let isSoft := g.has 's'
  let what : Text := (if isSoft then "failed to create symbolic link " else
    "failed to create hard link ").toList
  let targetIsLink := (s.inodeAt false (withoutSlashes target)).toOption.any fun n =>
    (s.world.store.content n matches .link _)
  let isPlain := g.has 'T' || (g.has 'n' && targetIsLink)
  match destination s source target isPlain with
  | .error fault => s.failOver 1 "ln".toList what target fault
  | .ok (directory, name, found, path) =>
      let (directory, name, found) := match if isPlain || found.isNone then none
          else (s.placeAt false path).toOption with
        | some place => place
        | none => (directory, name, found)
      let linked := if isSoft then none else (s.inodeAt (g.has 'L') source).toOption
      let isSame := found.isSome && linked = found
      let taken := found.any s.world.store.isDirectory
      if !isSoft && linked.isNone then
        s.failOver 1 "ln".toList "failed to access ".toList source .notFound
      else if linked.any s.world.store.isDirectory then
        s.complain 1 "ln".toList (source ++ ": hard link not allowed for directory".toList)
      else if isSame && g.has 'f' then
        s.complain 1 "ln".toList (inQuotes source ++ " and ".toList ++ inQuotes path ++
          " are the same file".toList)
      else
        let (s, stays) := if found.isSome && g.has 'i' && !g.has 'f' then
            let (s, agreed) := s.agrees ("ln: replace ".toList ++ inQuotes path ++ "? ".toList)
            (s, !agreed)
          else (s, false)
        let mayReplace := g.has 'f' || g.has 'b' || g.hasLong "backup" || g.has 'i'
        if stays then s
        else if found.isSome && (!mayReplace || taken) then
          s.failOver 1 "ln".toList what path .exists
        else
          let s := backUp g directory name found s
          let store := s.world.store
          let store := match Table.get? (store.entries directory) name with
            | some _ => store.leave directory name s.world.now
            | none => store
          let store := match linked with
            | some n => (store.enter directory name n s.world.now).update n fun file =>
                { file with changed := s.world.now }
            | none =>
                let said := if g.has 'r' then
                    match s.truePath? true true source with
                    | .ok t => State.relativeTo (store.pathOf directory) t
                    | .error _ => source
                  else source
                (store.create directory name (.link said) 0o777 s.world.now).1
          let s := s.withStore store
          if g.has 'v' then s.put (inQuotes path ++ (if isSoft then " -> " else " => ").toList ++
            inQuotes source ++ ['\n']) else s

/-- Makes second names for files, or links. -/
def makeNames : Tool := optioned "ln" "bdfFiLnPrsS:t:Tv"
    ["backup?", "directory=d", "force=f", "interactive=i", "logical=L", "no-dereference=n",
      "physical=P", "relative=r", "symbolic=s", "suffix=S", "target-directory=t",
      "no-target-directory=T", "verbose=v"] 1 fun g s =>
  let g := if g.has 'L' || g.has 's' || g.has 'P' then g else g
  match g.operands, g.value? 't' with
  | [], _ => s.complain 1 "ln".toList "missing file operand".toList
  | [source], none =>
      if g.has 'T' then s.complain 1 "ln".toList "missing destination file operand".toList
      else nameOne g ['.'] source s
  | _, _ =>
      match sourcesAndTarget g with
      | none => s.complain 1 "ln".toList "missing file operand".toList
      | some (sources, target) =>
          if needsDirectory g sources target s then
            s.failOver 1 "ln".toList "target ".toList target .notADirectory
          else sources.foldl (fun s source => nameOne g target source s) s

/-- Makes a second name for a file. -/
def makeName : Tool := fun words s =>
  match words.filter (· ≠ "--".toList) with
  | [source, target] => makeNames ["-T".toList, "--".toList, source, target] s
  | _ => s.missOperand "link" 1

/-- Files are put where they are to be used. -/
def install : Tool := optioned "install" "bcCdDg:m:o:psS:t:TvZ"
    ["backup?", "compare=C", "directory=d", "group=g", "mode=m", "owner=o", "preserve-timestamps=p",
      "strip=s", "suffix=S", "target-directory=t", "no-target-directory=T", "verbose=v",
      "strip-program:", "preserve-context", "context?"] 1 fun g s =>
  let modeText := (g.value? 'm').getD "755".toList
  match Mode.changed? 0 false modeText 0 with
  | none => s.complain 1 "install".toList "invalid mode".toList
  | some mode =>
      let setMode (path : Text) (s : State) : State :=
        match s.inodeAt true path with
        | .ok n => s.changeInode n fun file => { file with mode := mode }
        | .error _ => s
      if g.has 'd' then
        if g.operands.isEmpty then s.missOperand "install" 1
        else g.operands.foldl (fun s path => match makeWay "" none path s with
          | .ok s => setMode path s
          | .error fault => s.failOver 1 "install".toList
              "cannot create directory ".toList path fault) s
      else
        match sourcesAndTarget g with
        | none => s.complain 1 "install".toList "missing file operand".toList
        | some (sources, target) =>
            let way := if g.has 't' then target else directoryName target
            let s := if g.has 'D' then ((makeWay "" none way s).toOption).getD s else s
            if needsDirectory g sources target s then
              s.failOver 1 "install".toList "target ".toList target .notADirectory
            else sources.foldl (fun s source =>
              let c : Copying := ⟨false, false, g.has 'p', false, false, some mode⟩
              let after := copyOne ⟨[], []⟩ c target source s
              if after.status ≠ 0 then after
              else
                match destination s source target (g.has 'T') with
                | .ok (_, _, _, path) => setMode path after
                | .error _ => after) s

/-! ### Permissions and owners -/

/-- Does something with a file and, where asked for, with all that is under it. -/
def onTree (isDeep : Bool) (f : Nat → Text → State → State) : Nat → Nat → Text → State → State
  | 0, _, _, s => s
  | fuel + 1, n, path, s =>
      let s := f n path s
      if isDeep && s.world.store.isDirectory n then
        (s.world.store.names n).foldl (fun s name =>
          match Table.get? (s.world.store.entries n) name with
          | some m => if (s.world.store.content m matches .link _) then s
              else onTree isDeep f fuel m (under path name) s
          | none => s) s
      else s

/-- Changes the permissions of files. -/
def changeMode : Tool := fun words s =>
  let isMode (w : Text) : Bool := match w with
    | '-' :: c :: rest => (c :: rest).all "rwxXstugoa,+=-".toList.contains && c ≠ '-'
    | _ => false
  let before := words.takeWhile (· ≠ "--".toList)
  let first := if (before.filter fun w => w.head? ≠ some '-').length < words.length then
    before.find? isMode else none
  let words := match first with
    | some w => before.filter (· ≠ w) ++ words.drop before.length
    | none => words
  optioned "chmod" "cfRv"
    ["changes=c", "quiet=f", "silent=f", "no-preserve-root", "preserve-root", "reference:",
      "recursive=R", "verbose=v"] 1 (fun g s =>
    let said : Option Text := match g.longValue? "reference", first with
      | some path, _ => (s.inodeAt true path).toOption.map fun n =>
          Mode.digits (s.world.store.inode n).mode
      | none, some t => some t
      | none, none => g.operands.head?
    let names := if (g.longValue? "reference").isSome || first.isSome then g.operands
      else g.operands.tail
    match said with
    | none => s.missOperand "chmod" 1
    | some mode =>
        if (Mode.changed? s.mask false mode 0).isNone then
          s.complain 1 "chmod".toList ("invalid mode: ".toList ++ inQuotes mode)
        else if names.isEmpty then
          s.complain 1 "chmod".toList ("missing operand after ".toList ++ inQuotes mode)
        else names.foldl (fun s path =>
          match s.inodeAt true path with
          | .error fault => if g.has 'f' then s.withStatus 1
              else s.failOver 1 "chmod".toList "cannot access ".toList path fault
          | .ok n => onTree (g.has 'R') (fun n path s =>
              let file := s.world.store.inode n
              let new := (Mode.changed? s.mask (s.world.store.isDirectory n) mode file.mode).getD
                file.mode
              let s := s.changeInode n fun file => { file with mode := new }
              if g.has 'v' || (g.has 'c' && new ≠ file.mode) then
                s.put ("mode of ".toList ++ inQuotes path ++ " changed from ".toList ++
                  inWidth 4 (digitsValue (Mode.digits file.mode)) ++ " to ".toList ++
                  inWidth 4 (digitsValue (Mode.digits new)) ++ ['\n'])
              else s) treeDepth n path s) s) words s

/-- Changes whose files are. -/
def changeOwner (who : String) (isGroup : Bool) : Tool := optioned who "cfhHLPRv"
    ["changes=c", "quiet=f", "silent=f", "dereference", "no-dereference=h", "from:",
      "no-preserve-root", "preserve-root", "reference:", "recursive=R", "verbose=v"] 1 fun g s =>
  let owner := g.operands.headD []
  let (user, group) : Text × Option Text :=
    if isGroup then ([], some owner)
    else match Text.splitFirst [':'] owner with
      | some (user, group) => (user, some group)
      | none => (owner, none)
  let reference := (g.longValue? "reference").bind fun path => (s.inodeAt true path).toOption
  let names := if reference.isSome then g.operands else g.operands.tail
  let said : Option (Option Nat × Option Nat) := match reference with
    | some n =>
        let file := s.world.store.inode n
        some (if isGroup then none else some file.owner, some file.group)
    | none => do
        let u ← if user.isEmpty then some none else (userNumber? user).map some
        let v ← match group with
          | none => some none
          | some [] => some none
          | some t => (userNumber? t).map some
        return (u, v)
  match said with
  | none => s.complain 1 who.toList ((if isGroup then "invalid group: " else
      "invalid user: ").toList ++ inQuotes owner)
  | some (user, group) =>
      if names.isEmpty then s.missOperand who 1
      else names.foldl (fun s path =>
        match s.inodeAt (!g.has 'h') path with
        | .error fault => if g.has 'f' then s.withStatus 1
            else s.failOver 1 who.toList "cannot access ".toList path fault
        | .ok n => onTree (g.has 'R') (fun n _ s => s.changeInode n fun file =>
            { file with owner := user.getD file.owner, group := group.getD file.group })
            treeDepth n path s) s

/-! ### Sizes -/

/-- The size that a text asks for: a number, or one that is added, taken away or not gone beyond, or
a multiple. -/
def newSize? (t : Text) (before : Nat) : Option Nat :=
  let (sign, digits) := match t with
    | c :: rest => if "+-<>/%".toList.contains c then (some c, rest) else (none, c :: rest)
    | [] => (none, [])
  (sizeOf? digits).bind fun n =>
    match sign with
    | some '+' => some (before + n)
    | some '-' => some (before - n)
    | some '<' => some (min before n)
    | some '>' => some (max before n)
    | some '/' => if n = 0 then none else some (before / n * n)
    | some '%' => if n = 0 then none else some ((before + n - 1) / n * n)
    | _ => some n

/-- Cuts files to a size, or makes them longer. -/
def resize : Tool := optioned "truncate" "cor:s:"
    ["no-create=c", "io-blocks=o", "reference=r", "size=s"] 1 fun g s =>
  let reference := (g.value? 'r').bind fun path =>
    (s.inodeAt true path).toOption.map s.world.store.size
  if (g.value? 's').isNone && reference.isNone then
    s.complain 1 "truncate".toList "you must specify either --size or --reference".toList
  else if g.operands.isEmpty then s.complain 1 "truncate".toList "missing file operand".toList
  else g.operands.foldl (fun s path =>
    let isThere := (s.inodeAt true path).isOk
    if g.has 'c' && !isThere then s
    else
      match s.openAt path ⟨false, true, false, false, true, false⟩ with
      | .error fault => s.failOver 1 "truncate".toList "cannot open ".toList path fault
      | .ok (s, opening) =>
          match (s.world.opening opening).target with
          | .file n =>
              let before := s.world.fileText n
              match (g.value? 's').elim reference fun t =>
                  newSize? t (reference.getD before.length) with
              | none => s.complain 1 "truncate".toList "Invalid number".toList
              | some size =>
                  let t := before.take size ++ List.replicate (size - before.length) '\x00'
                  { s with world := s.world.setText n t }
          | _ => s) s

/-- Gives files room. -/
def allocate : Tool := optioned "fallocate" "cdil:no:pvxz"
    ["length=l", "offset=o", "keep-size=n", "posix=x", "verbose=v"] 1 fun g s =>
  match (g.value? 'l').bind sizeOf?, g.operands with
  | some size, [path] =>
      resize ["-s".toList, '>' :: Text.ofNat size, "--".toList, path] s
  | _, _ => s.complain 1 "fallocate".toList "no length argument specified".toList

/-! ### Names that nobody has -/

/-- Letters from a number that changes. -/
def randomLetters : Nat → Nat → Text × Nat
  | 0, n => ([], n)
  | count + 1, n =>
      let n := (n * 1103515245 + 12345) % 4294967296
      let signs := "abcdefghijklmnopqrstuvwxyzABCDEFGHIJKLMNOPQRSTUVWXYZ0123456789".toList
      let (more, m) := randomLetters count n
      ((signs[n / 65536 % 62]?).getD 'a' :: more, m)

/-- Makes a file or a directory under a name that nobody has. -/
def makeTemporary : Tool := optioned "mktemp" "dp:qtuV"
    ["directory=d", "tmpdir?", "quiet=q", "dry-run=u", "suffix:"] 1 fun g s =>
  let template := g.operands.headD "tmp.XXXXXXXXXX".toList
  let suffix := (g.longValue? "suffix").getD []
  let place := (g.value? 'p').or ((g.longValue? "tmpdir").map fun t => t)
  let standard := ((s.value? "TMPDIR".toList).filter (!·.isEmpty)).getD "/tmp".toList
  let directory : Option Text := match place with
    | some [] => some standard
    | some t => some t
    | none => if g.operands.isEmpty || g.has 't' then some standard else none
  let afterXs := (template.reverse.takeWhile (· != 'X')).reverse
  let beforeEnd := template.take (template.length - afterXs.length)
  let count := (beforeEnd.reverse.takeWhile (· == 'X')).length
  if 1 < g.operands.length then s.complain 1 "mktemp".toList "too many templates".toList
  else if count < 3 then
    s.complain 1 "mktemp".toList ("too few X\x27s in template ".toList ++ inQuotes template)
  else
    let (letters, random) := randomLetters count (s.world.random + s.world.lastProcess)
    let name := beforeEnd.take (beforeEnd.length - count) ++ letters ++ afterXs ++ suffix
    let path := match directory with
      | some d => under d name
      | none => name
    let s := { s with world := { s.world with random := random } }
    let made : Except Fault State :=
      if g.has 'u' then .ok s
      else do
        let (directory, name, found) ← s.newPlace path
        if found.isSome then .error .exists
        else
          let store := s.world.store
          .ok (s.withStore (if g.has 'd' then
            (store.createDirectory directory name 0o700 s.world.now).1
            else (store.create directory name (.plain []) 0o600 s.world.now).1))
    match made with
    | .ok s => s.put (path ++ ['\n'])
    | .error fault => if g.has 'q' then s.withStatus 1
        else s.failOver 1 "mktemp".toList "failed to create file via template ".toList
            template fault

/-! ### Blocks -/

/-- What is to be done with blocks: from where to where, how large they are and how many, and how
they are changed. -/
def copyBlocks : Tool := fun words s =>
  let given := words.filterMap (Text.splitFirst ['='])
  let value (name : String) : Option Text := (given.reverse.find? (·.1 == name.toList)).map Prod.snd
  let known := ["if", "of", "bs", "ibs", "obs", "cbs", "count", "skip", "seek", "conv", "status",
    "iflag", "oflag", "iseek", "oseek"]
  let size (name : String) (standard : Nat) : Option Nat := match value name with
    | some t => sizeOf? t
    | none => some standard
  let listed (name : String) : List Text := ((value name).map (splitAt ',')).getD []
  let conversions := (listed "conv").map String.ofList
  let isBad := words.any fun w => match Text.splitFirst ['='] w with
    | some (name, _) => !known.contains (String.ofList name)
    | none => w ≠ "--".toList
  if isBad then
    if words.head? = some "--help".toList || words.head? = some "--version".toList
        then s.withStatus 0
    else s.complain 1 "dd".toList "unrecognized operand".toList
  else
    match size "bs" 512, size "ibs" 512, size "obs" 512, size "skip" 0, size "seek" 0 with
    | some bs, some ibs, some obs, some skip, some seek =>
        let ibs := if (value "bs").isSome then bs else ibs
        let obs := if (value "bs").isSome then bs else obs
        let skipBytes := (listed "iflag").contains "skip_bytes".toList
        let countBytes := (listed "iflag").contains "count_bytes".toList
        let seekBytes := (listed "oflag").contains "seek_bytes".toList
        let count? := (value "count").map sizeOf?
        if ibs = 0 || obs = 0 || count? = some none then
          s.complain 1 "dd".toList "invalid number".toList
        else
          let opened : Except (Text × Fault) (State × Option Nat) := match value "if" with
            | some path => match s.openAt path .read with
                | .ok (s, n) => .ok (s, some n)
                | .error fault => .error (path, fault)
            | none => .ok (s, s.opening? 0)
          match opened with
          | .error (path, fault) =>
              s.failOver 1 "dd".toList "failed to open ".toList path fault
          | .ok (s, none) => s.complain 1 "dd".toList "error reading standard input".toList
          | .ok (s, some input) =>
              if s.isStopped then s
              else
                let skipped := if skipBytes then skip else skip * ibs
                let (_, world) := s.world.taken input skipped
                let wanted := match count? with
                  | some (some n) => if countBytes then n else n * ibs
                  | _ => 67108864
                let isZeros := (world.opening input).target = .zeros
                let (t, world) := world.taken input wanted
                let s := { s with world := world }
                let isEndless := isZeros && count?.isNone
                let whole := t.length / ibs
                let isPart := t.length % ibs ≠ 0
                let t := if conversions.contains "sync" && isPart then
                    t ++ List.replicate (ibs - t.length % ibs) '\x00' else t
                let swapped (t : Text) : Text :=
                  (List.range ((t.length + 1) / 2)).flatMap fun n =>
                    ((t.drop (2 * n)).take 2).reverse
                let t := if conversions.contains "ucase" then t.map capital else t
                let t := if conversions.contains "lcase" then t.map small else t
                let t := if conversions.contains "swab" then swapped t else t
                let place := if seekBytes then seek else seek * obs
                let written : Except (Text × Fault) State := match value "of" with
                  | none => match s.writeTo? 1 t with
                      | some s => .ok s
                      | none => .error ("standard output".toList, .invalid)
                  | some path =>
                      let keeps := conversions.contains "notrunc" || 0 < place ||
                        (listed "oflag").contains "append".toList
                      let access : World.Access := ⟨false, true,
                        (listed "oflag").contains "append".toList, !keeps,
                        !conversions.contains "nocreat", conversions.contains "excl"⟩
                      match s.openAt path access with
                      | .error fault => .error (path, fault)
                      | .ok (s, n) =>
                          let s := match (s.world.opening n).target with
                            | .file inode =>
                                let start := (s.world.fileText inode).take place
                                let world := s.world.setText inode start
                                if keeps && !conversions.contains "notrunc" && 0 < place then
                                  { s with world := world }
                                else s
                            | _ => s
                          match (s.world.seek n place).append? n t with
                          | some world => .ok { s with world := world }
                          | none => .error (path, .invalid)
                let records := Text.ofNat whole ++ '+' :: (if isPart then ['1'] else ['0'])
                match written with
                | .error (path, fault) =>
                    s.failOver 1 "dd".toList "failed to open ".toList path fault
                | .ok s =>
                    let s := match (value "status").map String.ofList with
                      | some "none" => s
                      | some "noxfer" => s.mutter (records ++ " records in\n".toList ++ records ++
                          " records out\n".toList)
                      | _ => s.mutter (records ++ " records in\n".toList ++ records ++
                          " records out\n".toList ++ Text.ofNat t.length ++
                          (if t.length = 1 then " byte" else " bytes").toList ++
                          " copied, 0.0001 s, 1.0 MB/s\n".toList)
                    if isEndless then s.endless else s.withStatus 0
    | _, _, _, _, _ => s.complain 1 "dd".toList "invalid number".toList

end KeyMenu.Sh
