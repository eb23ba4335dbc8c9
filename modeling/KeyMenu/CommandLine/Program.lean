import KeyMenu.CommandLine.Request
import KeyMenu.Config.Load
import KeyMenu.Config.Location
import KeyMenu.Display.Notice
import KeyMenu.Log.Level
import KeyMenu.Session.Basic

/-!
# The program

`Program.run` reads the command line, finds and loads the configuration, and holds a session.
Everything it depends on is given by a `Host`. What it did is a list of events, from which the
notices (`RunReport.notices`) and the log (`RunReport.log`) are read off, and errors decide the exit
status (`RunError.exitStatus?`).
-/

namespace KeyMenu

/-- What the program runs on: the disk, the environment, the home directory, whether there is
someone at a terminal, the keys to be typed there and the other answers to come. -/
structure Host where
  disk : Disk
  environ : Environment
  home : Path
  interactive : Bool
  typed : List Text
  script : Script

/-- What ends the program before its time. -/
inductive RunError
  | location (error : LocationError)
  | load (error : LoadError)
  | policy (error : UnknownPolicy)
  | session (failure : Failure)
  deriving DecidableEq

namespace RunError

/-- What is told about an error. -/
def message? : RunError → Option Text
  | .location (.nothingAbove start) => some (Location.nothingAboveMessage start)
  | .location (.fault _) => none
  | .load error => error.message?
  | .policy error => some error.message
  | .session failure => failure.message?

/-- The exit status of the program: that of a command that did not succeed, and one of its own for
an interruption and for all other errors that are told. The rest is not provided for. -/
def exitStatus? : RunError → Option Int
  | .session (.exited status _) => some status
  | .session .interrupted => some 130
  | .session .endOfInput => some 130
  | error => error.message?.map fun _ => 1

end RunError

/-- What became of a run of the program: the level of the log, the outcome, and the events. -/
structure RunReport where
  level : Level
  result : Except RunError Unit
  events : List Event

namespace RunReport

/-- The exit status, where the program provides one. -/
def exitStatus? (r : RunReport) : Option Int :=
  match r.result with
  | .ok () => some 0
  | .error error => error.exitStatus?

/-- The notice about the error, if one is told. -/
def complaint (onTerminal : Bool) (r : RunReport) : List Text :=
  match r.result with
  | .ok () => []
  | .error error => (error.message?.map (notice .error onTerminal)).toList

/-- The notices that the events call for, and the one about the error. -/
def notices (onTerminal : Bool) (r : RunReport) : List Text :=
  (r.events.filterMap fun
    | .warned message => some (notice .warning onTerminal message)
    | _ => none) ++ r.complaint onTerminal

/-- The records that the level admits. -/
def log (r : RunReport) : List LogRecord :=
  if r.level.admits Level.debug then
    r.events.filterMap fun
      | .logged record => some record
      | _ => none
  else []

end RunReport

/-- How the program ends: over its command line, by telling how it is used or which version it is,
over a log level that is no number, or after a run. -/
inductive ProgramEnd
  | misused (error : UsageError)
  | helped
  | toldVersion
  | malformedLevel
  | ran (report : RunReport)

namespace Program

/-- The name of the program and its version. -/
def versionLine : Text := "dt 0.8.0\n".toList

/-- The level of the log: flags on the command line count first, then the environment. -/
def level (verbosity : Nat) (environ : Environment) : Level.Reading :=
  match Level.ofVerbosity? verbosity with
  | some level => .level level
  | none =>
      match Table.get? environ Environment.logName with
      | none => .unknown
      | some spelled => Level.ofText spelled

/-- The session that a request asks for. -/
def session (host : Host) (request : Request) (config : Config) (workdir : Option Path)
    (policy : InvalidKeyPolicy) : Session :=
  { config := config
    around := ⟨host.environ, workdir⟩
    policy := policy
    extra := request.values
    interactive := host.interactive }

/-- Finds and loads the configuration and holds the session. -/
def perform (host : Host) (request : Request) : Except RunError Unit × List Event :=
  match host.disk.locate host.environ host.home request.config request.isLocal none with
  | .error error => (.error (.location error), [])
  | .ok location =>
      let loading := Config.load host.disk location.path
      let told := loading.records.map Event.logged
      match loading.result with
      | .error error => (.error (.load error), told)
      | .ok config =>
          match InvalidKeyPolicy.choose (request.policy.map (·.name)) host.environ with
          | .error error => (.error (.policy error), told)
          | .ok policy =>
              let ending := (session host request config location.workdir policy).run
                request.keys host.typed host.script
              (ending.result.mapError .session, told ++ ending.events)

/-- Runs what a request asks for. -/
def runRequest (host : Host) (request : Request) : ProgramEnd :=
  let report (level : Level) : ProgramEnd :=
    let (result, events) := perform host request
    .ran ⟨level, result, events⟩
  match level request.verbosity host.environ with
  | .malformed => .malformedLevel
  | .unknown => report Level.warning
  | .level level => report level

/-- Runs the program with the given arguments. -/
def run (host : Host) (arguments : List Text) : ProgramEnd :=
  match Request.ofArguments arguments with
  | .error error => .misused error
  | .ok .help => .helped
  | .ok .version => .toldVersion
  | .ok (.run request) => runRequest host request

end Program

end KeyMenu
