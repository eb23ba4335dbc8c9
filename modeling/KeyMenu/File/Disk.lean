import KeyMenu.File.Path
import KeyMenu.Text.Encoding

/-!
# Files on a disk

A `Disk` holds files and directories under their names from the root on. There are no links, so
that `..` leads to the directory above; but the directory it leaves has to be there. A path is
followed name by name, and the first name that cannot be followed decides what is wrong.

* `Disk.find`, `Disk.read`, `Disk.isFile`, `Disk.entries`: looking at what a path leads to;
* `Disk.write`, `Disk.makeDirectory`, `Disk.remove`: writing a file, with all directories on the way
  to it, making a directory, and taking away what is there.
-/

namespace KeyMenu

/-- Files with their bytes, directories, and the working directory. Whatever has something in it is
a directory without being listed. -/
structure Disk where
  files : List (List Text × List UInt8)
  directories : List (List Text)
  here : List Text

/-- Why a path does not lead to a file. -/
inductive FileFault
  | notFound
  | notADirectory
  | isADirectory
  | nameTooLong
  | nullCharacter
  deriving DecidableEq

/-- The wording of a fault. -/
def FileFault.message : FileFault → Text
  | .notFound => "No such file or directory".toList
  | .notADirectory => "Not a directory".toList
  | .isADirectory => "Is a directory".toList
  | .nameTooLong => "File name too long".toList
  | .nullCharacter => "embedded null byte".toList

/-- What a path leads to: a directory, by its names from the root on, or the bytes of a file. -/
inductive DiskNode
  | directory (names : List Text)
  | file (bytes : List UInt8)
  deriving DecidableEq

namespace Path

/-- A name takes at most so many bytes. -/
def maxNameBytes : Nat := 255

/-- A path takes fewer bytes than this. -/
def maxBytes : Nat := 4096

/-- A name is short enough. -/
def nameFits (name : Text) : Bool := (Text.toBytes name).length ≤ maxNameBytes

/-- What is wrong with a path, whatever the disk. -/
def fault? (p : Path) : Option FileFault :=
  let text := p.toText
  if '\x00' ∈ text then some .nullCharacter
  else if (Text.toBytes text).length < maxBytes then none
  else some .nameTooLong

/-- The directory that names lead to from `start` on, if all of them are there. -/
def collapse (start : List Text) : List Text → List Text
  | [] => start
  | name :: names =>
      if name = above then collapse start.dropLast names else collapse (start ++ [name]) names

end Path

namespace Disk

/-- What stands under the names from the root on. -/
def node? (d : Disk) (names : List Text) : Option DiskNode :=
  match d.files.find? (·.1 == names) with
  | some (_, bytes) => some (.file bytes)
  | none =>
      if names.isEmpty || d.directories.any names.isPrefixOf ||
          d.files.any fun (path, _) => names.isPrefixOf path then
        some (.directory names)
      else none

/-- Follows names from a directory. -/
def follow (d : Disk) (start : List Text) : List Text → Except FileFault DiskNode
  | [] => .ok (.directory start)
  | name :: names =>
      if name = Path.above then follow d start.dropLast names
      else if Path.nameFits name = false then .error .nameTooLong
      else
        match d.node? (start ++ [name]), names with
        | none, _ => .error .notFound
        | some (.directory _), names => follow d (start ++ [name]) names
        | some (.file bytes), [] => .ok (.file bytes)
        | some (.file _), _ :: _ => .error .notADirectory

/-- Where the names of a path begin. -/
def origin (d : Disk) (p : Path) : List Text := if p.isAbsolute then [] else d.here

/-- What a path leads to. -/
def find (d : Disk) (p : Path) : Except FileFault DiskNode :=
  match p.fault? with
  | some fault => .error fault
  | none => d.follow (d.origin p) p.names

/-- The bytes of a file. -/
def read (d : Disk) (p : Path) : Except FileFault (List UInt8) :=
  match d.find p with
  | .error fault => .error fault
  | .ok (.directory _) => .error .isADirectory
  | .ok (.file bytes) => .ok bytes

/-- The path leads to a file. That it leads nowhere is no fault, but a name may be too long to
ask for. -/
def isFile (d : Disk) (p : Path) : Except FileFault Bool :=
  match d.find p with
  | .ok (.file _) => .ok true
  | .ok (.directory _) => .ok false
  | .error .nameTooLong => .error .nameTooLong
  | .error _ => .ok false

/-- The names of a path from the root on, whatever is on the disk. -/
def resolve (d : Disk) (p : Path) : List Text := Path.collapse (d.origin p) p.names

/-- The names of what stands directly under other names, in code point order. -/
def entries (d : Disk) (names : List Text) : List Text :=
  Text.sortedSet ((d.directories ++ d.files.map Prod.fst).filterMap fun path =>
    if names.isPrefixOf path then path[names.length]? else none)

/-- Makes a directory. -/
def makeDirectory (d : Disk) (names : List Text) : Disk :=
  { d with directories := names :: d.directories }

/-- Takes away what stands under some names; the directory around it stays. -/
def remove (d : Disk) (names : List Text) : Disk :=
  { d with
    files := d.files.filter fun (path, _) => !names.isPrefixOf path
    directories := names.dropLast :: d.directories.filter fun path => !names.isPrefixOf path }

/-- Follows names from a directory and makes the directories that are missing. -/
def makeWay (d : Disk) (start : List Text) : List Text → Except FileFault (Disk × List Text)
  | [] => .ok (d, start)
  | name :: names =>
      if name = Path.above then makeWay d start.dropLast names
      else if Path.nameFits name = false then .error .nameTooLong
      else
        let next := start ++ [name]
        match d.node? next with
        | none => makeWay { d with directories := next :: d.directories } next names
        | some (.directory _) => makeWay d next names
        | some (.file _) => .error .notADirectory

/-- Writes a file, and makes the directories on the way to it. -/
def write (d : Disk) (p : Path) (bytes : List UInt8) : Except FileFault Disk :=
  match p.fault? with
  | some fault => .error fault
  | none => do
      let (d, directory) ← d.makeWay (d.origin p) p.parent.names
      match p.names.getLast? with
      | none => .error .isADirectory
      | some name =>
          if name = Path.above then .error .isADirectory
          else if Path.nameFits name = false then .error .nameTooLong
          else
            let names := directory ++ [name]
            match d.node? names with
            | some (.directory _) => .error .isADirectory
            | _ => .ok { d with files := (names, bytes) :: d.files }

end Disk

end KeyMenu
