import KeyMenu.Environment
import KeyMenu.File.Disk

/-!
# Where the configuration is

A path that is given wins. Otherwise a local search looks through a directory and the directories
above it, and commands then run where the file was found; and otherwise the file lies in the
directory of configurations.
-/

namespace KeyMenu

/-- A configuration file, and the working directory for its commands unless that is the present
one. -/
structure Location where
  path : Path
  workdir : Option Path
  deriving DecidableEq

/-- Why no configuration file has been found. -/
inductive LocationError
  | nothingAbove (start : Path)
  | fault (fault : FileFault)
  deriving DecidableEq

namespace Location

/-- The name of configuration files. -/
def fileName : Text := "dotree.dt".toList

/-- The message that a search was in vain. -/
def nothingAboveMessage (start : Path) : Text :=
  "No ".toList ++ fileName ++ " found in ".toList ++ start.toText ++
    " or any parent directory".toList

/-- The directory of the given names from the root on. -/
def directory (names : List Text) : Path := ⟨.single, names⟩

/-- The file in the directory of the given names, last one first, if it is there. -/
def candidate (d : Disk) (reversed : List Text) : Except FileFault (Option Path) := do
  let path := (directory reversed.reverse).child fileName
  return if ← d.isFile path then some path else none

/-- The nearest file in a directory or above it; the names of the directory come last one
first. -/
def nearest (d : Disk) : List Text → Except FileFault (Option Path)
  | [] => candidate d []
  | name :: names => do
      match ← candidate d (name :: names) with
      | some found => return some found
      | none => nearest d names

/-- The search from a directory on. -/
def search (d : Disk) (start : Path) : Except LocationError Location :=
  if '\x00' ∈ start.toText then .error (.fault .nullCharacter)
  else
    match nearest d (d.resolve start).reverse with
    | .error fault => .error (.fault fault)
    | .ok none => .error (.nothingAbove start)
    | .ok (some found) => .ok ⟨found, some found.parent⟩

/-- The file in the directory of configurations, which is below `home` unless the environment
names another. -/
def standard (environ : Environment) (home : Path) : Path :=
  let base :=
    match environ.filled? Environment.configHomeName with
    | some value => Path.ofText value
    | none => home.child ".config".toList
  base.child fileName

/-- The paths that may be looked at: a given one, the standard one, and those that a search from
the directory `here` on comes to. -/
def places (environ : Environment) (home : Path) (given : Option Path) (here : List Text) :
    List Path :=
  given.toList ++ standard environ home ::
    (List.range (here.length + 1)).map fun n => (directory (here.take n)).child fileName

end Location

/-- Finds the configuration file: the given one, or the nearest from `start` on, which is the
working directory where nothing is said, or the standard one. -/
def Disk.locate (d : Disk) (environ : Environment) (home : Path) (given : Option Path)
    (isLocal : Bool) (start : Option Path) : Except LocationError Location :=
  match given with
  | some path => .ok ⟨path, none⟩
  | none =>
      if isLocal then Location.search d (start.getD (Location.directory d.here))
      else .ok ⟨Location.standard environ home, none⟩

end KeyMenu
