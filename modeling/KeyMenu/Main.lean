import KeyMenu.CommandLine.Dialogue
import KeyMenu.Run.CallLine

/-!
# The command line

Runs the program at a terminal. Keys and lines are read from standard input, menus and messages go
to standard error, and every command is written to standard output as a line for a shell, which is
what starts it. Keys are read a line at a time.
-/

namespace KeyMenu.Console

/-- A text as the system takes it. -/
def ofText (t : Text) : String := String.ofList t

/-- Puts what the system has under the given names on a disk: the directories on the way, as far as
they are there, and the file at the end. -/
def addNames (disk : Disk) (names : List Text) : IO Disk := do
  let mut disk := disk
  for n in List.range (names.length + 1) do
    let names := Path.collapse [] (names.take n)
    match ← (IO.FS.readBinFile (ofText (Location.directory names).toText)).toBaseIO with
    | .ok bytes => return { disk with files := (names, bytes.toList) :: disk.files }
    | .error (.noFileOrDirectory ..) => return disk
    | .error _ => disk := { disk with directories := names :: disk.directories }
  return disk

/-- The environment, as far as the program looks at it. -/
def environment : IO Environment := do
  let names := [Environment.shellName, Environment.policyName, Environment.logName,
    Environment.configHomeName]
  let values ← names.mapM fun name => return (name, ← IO.getEnv (ofText name))
  return Table.ofPairs (values.filterMap fun (name, value) => value.map fun v => (name, v.toList))

/-- What the program runs on, where nothing has been typed yet. -/
def host (arguments : List Text) : IO Host := do
  let environ ← environment
  let home := Path.ofText ((← IO.getEnv "HOME").getD "/").toList
  let here := (Path.ofText (toString (← IO.currentDir)).toList).names
  let given := match Request.ofArguments arguments with
    | .ok (.run request) => request.config
    | _ => none
  let mut disk : Disk := ⟨[], [here], here⟩
  for place in Location.places environ home given here do
    disk ← addNames disk (disk.origin place ++ place.names)
  return ⟨disk, environ, home, ← (← IO.getStdin).isTty, [], ⟨[], []⟩⟩

/-- Shows an event. -/
def tell (host : Host) (level : Level) (event : Event) : IO Unit := do
  let stderr ← IO.getStderr
  stderr.putStr (ofText (event.told level (← stderr.isTty)))
  stderr.flush
  match event with
  | .called call => IO.println (ofText (call.line host.environ))
  | _ => return

/-- A line of standard input without its end, if there is one. -/
def readLine : IO (Option Text) := do
  let line := (← (← IO.getStdin).getLine).toList
  return if line.isEmpty then none else some (Argument.dropLineEnd line)

/-- Runs the program, and again with every answer that it waits for. The first events of a run are
those of the run before, which have been told. -/
partial def converse (arguments : List Text) (told : Nat) (host : Host) : IO UInt32 := do
  let stderr ← IO.getStderr
  match Program.run host arguments with
  | .misused error =>
      stderr.putStr (ofText (Program.usageLine ++ error.report))
      return 2
  | .helped =>
      IO.print (ofText Program.helpText)
      return 0
  | .toldVersion =>
      IO.print (ofText Program.versionLine)
      return 0
  | .malformedLevel => return 1
  | .ran report =>
      for event in report.events.drop told do
        tell host report.level event
      if let some question := report.question? then
        if let some answer ← readLine then
          return ← converse arguments report.events.length (host.answer answer question)
      stderr.putStr (ofText (report.complaint (← stderr.isTty)).flatten)
      return ((report.exitStatus?.getD 1) % 256).toNat.toUInt32

end KeyMenu.Console

/-- The command line of the program. -/
def main (arguments : List String) : IO UInt32 := do
  let arguments := arguments.map (·.toList)
  KeyMenu.Console.converse arguments 0 (← KeyMenu.Console.host arguments)
