import KeyMenu.File.Disk
import KeyMenu.Sh.Octet
import KeyMenu.Table

/-!
# The files that processes see

A `Store` holds what a tree of directories leads to: files, directories, links, queues, devices and
programs, with their permissions, owners and times (`Inode`). A directory names its entries, and
itself and the directory above as well. A path is followed name by name, and a link in it by what
the link says (`Store.walk`).

* `Store.find`, `Store.place`: what a path leads to, and where something under it would stand;
* `Store.create`, `Store.enter`, `Store.leave`, `Store.move`: new files, new and old names of files.
-/

namespace KeyMenu.Sh

/-- What a file holds. -/
inductive Content
  | plain (text : Text)
  | directory (entries : Table Nat)
  | link (target : Text)
  | queue (number : Nat)
  | device (name : Text)
  | program (name : Text)
  deriving DecidableEq

/-- A file with its permissions, its owner and its group, and the times, in thousand-millionths of a
second, at which its text and its attributes have changed and at which it has been read. -/
structure Inode where
  content : Content
  mode : Nat
  owner : Nat
  group : Nat
  modified : Int
  accessed : Int
  changed : Int

/-- Why a path does not lead where it should. -/
inductive Fault
  | notFound
  | notADirectory
  | isADirectory
  | nameTooLong
  | exists
  | notEmpty
  | tooManyLinks
  | notPermitted
  | notAllowed
  | invalid
  | noDevice
  | busy
  deriving DecidableEq

/-- The wording of a fault. -/
def Fault.message : Fault → Text
  | .notFound => "No such file or directory".toList
  | .notADirectory => "Not a directory".toList
  | .isADirectory => "Is a directory".toList
  | .nameTooLong => "File name too long".toList
  | .exists => "File exists".toList
  | .notEmpty => "Directory not empty".toList
  | .tooManyLinks => "Too many levels of symbolic links".toList
  | .notPermitted => "Permission denied".toList
  | .notAllowed => "Operation not permitted".toList
  | .invalid => "Invalid argument".toList
  | .noDevice => "No such device or address".toList
  | .busy => "Device or resource busy".toList

/-- All files by number; the first one is the directory from which absolute paths begin. -/
structure Store where
  inodes : Array Inode

namespace Store

/-- The number of the directory from which absolute paths begin. -/
def root : Nat := 0

/-- A name takes at most so many bytes, and a path fewer than so many. -/
def limits : Nat × Nat := (255, 4096)

/-- So many links may be followed on the way. -/
def linkLimit : Nat := 40

/-- The file of a number. -/
def inode (s : Store) (n : Nat) : Inode :=
  (s.inodes[n]?).getD ⟨.plain [], 0, 0, 0, 0, 0, 0⟩

/-- What the file of a number holds. -/
def content (s : Store) (n : Nat) : Content := (s.inode n).content

/-- Changes the file of a number. -/
def update (s : Store) (n : Nat) (f : Inode → Inode) : Store :=
  ⟨s.inodes.modify n f⟩

/-- Puts a new file in, and gives its number. -/
def add (s : Store) (file : Inode) : Store × Nat := (⟨s.inodes.push file⟩, s.inodes.size)

/-- The entries of a directory, itself and the one above among them. -/
def entries (s : Store) (n : Nat) : Table Nat :=
  match s.content n with
  | .directory entries => entries
  | _ => []

/-- The names that a directory gives to others, in the order of their bytes. -/
def names (s : Store) (n : Nat) : List Text :=
  Text.sorted (((s.entries n).names).filter fun name => name ≠ ['.'] && name ≠ ['.', '.'])

/-- The file is a directory. -/
def isDirectory (s : Store) (n : Nat) : Bool :=
  match s.content n with
  | .directory _ => true
  | _ => false

/-! ### Paths -/

/-- The names of a path, and whether it begins at the root. A slash at the end asks for a directory,
as the name of the directory itself does. -/
def pieces (path : Text) : Bool × List Text :=
  let names := path.slashPieces.filter (!·.isEmpty)
  (path.head? == some '/', if path.getLast? = some '/' then names ++ [['.']] else names)

/-- Follows names from a directory; the last one may be a link that is not followed. `links` counts
how many links may still be followed. -/
def walk (s : Store) (follows : Bool) : Nat → Nat → Nat → List Text → Except Fault Nat
  | 0, _, _, _ => .error .nameTooLong
  | _ + 1, _, at', [] => .ok at'
  | fuel + 1, links, at', name :: names =>
      match s.content at' with
      | .directory entries =>
          if limits.1 < name.length then .error .nameTooLong
          else
            match Table.get? entries name with
            | none => .error .notFound
            | some n =>
                match s.content n with
                | .link target =>
                    if names.isEmpty && !follows then .ok n
                    else if links = 0 then .error .tooManyLinks
                    else
                      let (isAbsolute, before) := pieces target
                      s.walk follows fuel (links - 1) (if isAbsolute then root else at')
                        (before ++ names)
                | _ => s.walk follows fuel links n names
      | _ => .error .notADirectory

/-- Steps that are enough to follow any path. -/
def walkFuel : Nat := 200000

/-- What is wrong with a path by itself. -/
def pathFault? (path : Text) : Option Fault :=
  if path.isEmpty then some .notFound
  else if limits.2 ≤ path.length then some .nameTooLong
  else none

/-- What a path leads to from a directory; a link at the end is followed if asked for. -/
def find (s : Store) (follows : Bool) (here : Nat) (path : Text) : Except Fault Nat :=
  match pathFault? path with
  | some fault => .error fault
  | none =>
      let (isAbsolute, names) := pieces path
      s.walk follows walkFuel linkLimit (if isAbsolute then root else here) names

/-- Where a path leads: the directory, the name in it, and the file of that name. A link at the end
is followed to where it leads, even if nothing is there. -/
def placeFrom (s : Store) (follows : Bool) : Nat → Nat → Text →
    Except Fault (Nat × Text × Option Nat)
  | 0, _, _ => .error .tooManyLinks
  | fuel + 1, here, path =>
      match pathFault? path with
      | some fault => .error fault
      | none =>
          let (isAbsolute, names) := pieces path
          let start := if isAbsolute then root else here
          match names.getLast? with
          | none => .ok (root, ['.'], some root)
          | some name => do
              let directory ← s.walk true walkFuel linkLimit start names.dropLast
              if !s.isDirectory directory then .error .notADirectory
              else if limits.1 < name.length then .error .nameTooLong
              else
                match Table.get? (s.entries directory) name with
                | none => .ok (directory, name, none)
                | some n =>
                    match s.content n with
                    | .link target =>
                        if follows then s.placeFrom follows fuel directory target
                        else .ok (directory, name, some n)
                    | _ => .ok (directory, name, some n)

/-- Where a path leads; a link at the end is followed if asked for. -/
def place (s : Store) (follows : Bool) (here : Nat) (path : Text) :
    Except Fault (Nat × Text × Option Nat) :=
  s.placeFrom follows (linkLimit + 1) here path

/-- The name under which a directory stands in the one above. -/
def nameIn? (s : Store) (above n : Nat) : Option Text :=
  ((s.entries above).find? fun (name, m) => m == n && name != ['.'] && name != ['.', '.']).map
    Prod.fst

/-- The names that lead to a directory from the root on. -/
def wayTo (s : Store) : Nat → Nat → List Text
  | 0, _ => []
  | fuel + 1, n =>
      if n = root then []
      else
        match Table.get? (s.entries n) ['.', '.'] with
        | none => []
        | some above => s.wayTo fuel above ++ [(s.nameIn? above n).getD []]

/-- The path of a directory. -/
def pathOf (s : Store) (n : Nat) : Text := '/' :: Text.joinWith ['/'] (s.wayTo 4096 n)

/-! ### Names -/

/-- Gives a file a name in a directory, at a time. -/
def enter (s : Store) (directory : Nat) (name : Text) (n : Nat) (now : Int) : Store :=
  s.update directory fun d => { d with
    content := .directory (Table.put (s.entries directory) name n)
    modified := now
    changed := now }

/-- Takes a name out of a directory. -/
def leave (s : Store) (directory : Nat) (name : Text) (now : Int) : Store :=
  s.update directory fun d => { d with
    content := .directory ((s.entries directory).filter (·.1 != name))
    modified := now
    changed := now }

/-- Makes a file under a name in a directory, and gives its number. -/
def create (s : Store) (directory : Nat) (name : Text) (content : Content) (mode : Nat)
    (now : Int) : Store × Nat :=
  let (s, n) := s.add ⟨content, mode, 0, 0, now, now, now⟩
  (s.enter directory name n now, n)

/-- Makes a directory under a name. -/
def createDirectory (s : Store) (directory : Nat) (name : Text) (mode : Nat) (now : Int) :
    Store × Nat :=
  let n := s.inodes.size
  s.create directory name (.directory [(['.'], n), (['.', '.'], directory)]) mode now

/-- Gives a directory another one above it. -/
def reparent (s : Store) (n above : Nat) : Store :=
  s.update n fun d =>
    match d.content with
    | .directory entries => { d with content := .directory (Table.put entries ['.', '.'] above) }
    | _ => d

/-- Moves a name from one directory to another name in another one. -/
def move (s : Store) (directory : Nat) (name : Text) (target : Nat) (newName : Text) (n : Nat)
    (now : Int) : Store :=
  let s := (s.leave directory name now).enter target newName n now
  if s.isDirectory n then s.reparent n target else s

/-- The number of names that a file has: those of a directory are its own and those of the
directories in it. -/
def linkCount (s : Store) (n : Nat) : Nat :=
  s.inodes.foldl (fun count d =>
    match d.content with
    | .directory entries => count + (entries.filter (·.2 == n)).length
    | _ => count) 0

/-- The number of bytes of a file. -/
def size (s : Store) (n : Nat) : Nat :=
  match s.content n with
  | .plain text => text.length
  | .directory _ => 4096
  | .link target => target.length
  | .program name => 30000 + 8 * name.length
  | _ => 0

/-! ### Building -/

/-- An empty directory for the root. -/
def empty (now : Int) : Store :=
  ⟨#[⟨.directory [(['.'], 0), (['.', '.'], 0)], 0o755, 0, 0, now, now, now⟩]⟩

/-- Makes the directories that are missing on a way from the root, and gives the last one. -/
def makeWay (s : Store) (now : Int) : Nat → List Text → Store × Nat
  | at', [] => (s, at')
  | at', name :: names =>
      match Table.get? (s.entries at') name with
      | some n => s.makeWay now n names
      | none =>
          let (s, n) := s.createDirectory at' name 0o755 now
          s.makeWay now n names

/-- Puts something under names from the root on. -/
def build (s : Store) (names : List Text) (content : Content) (mode : Nat) (now : Int) : Store :=
  let (s, directory) := s.makeWay now root names.dropLast
  match names.getLast? with
  | none => s
  | some name =>
      match Table.get? (s.entries directory) name with
      | some _ => s
      | none => (s.create directory name content mode now).1

end Store

end KeyMenu.Sh
