import KeyMenu.CommandLine.Program
import KeyMenu.Display.Screen
import KeyMenu.Terminal.Key

/-!
# The dialogue at the terminal

A run that ends because nothing more has been typed waits for an answer (`RunReport.question?`):
with the answer, the program can be run again and comes further. What a person is to see of a run is
told event by event (`Event.told`).
-/

namespace KeyMenu

/-- What a run waits for: keys at a menu, or a line. -/
inductive Question
  | keys (view : View)
  | line (prompt : Text)
  deriving DecidableEq

/-- What a run waits for, if it ended only because no answer was left. -/
def RunReport.question? (r : RunReport) : Option Question :=
  match r.result, r.events.getLast? with
  | .error (.session .interrupted), some (.shown view) => some (.keys view)
  | .error (.session .endOfInput), some (.prompted prompt) => some (.line prompt)
  | _, _ => none

/-- The key that a code point from a terminal stands for. -/
def KeyPress.ofChar (c : Char) : KeyPress :=
  if isBackspace [c] then .backspace else .char c

/-- The texts of the keys of a typed line, as far as they count at a menu. -/
def KeyPress.readLine (t : Text) : List Text :=
  t.filterMap fun c => (read [.ofChar c]).toOption

/-- The host, with an answer to what a run waits for. -/
def Host.answer (host : Host) (typed : Text) : Question → Host
  | .keys _ => { host with typed := host.typed ++ KeyPress.readLine typed }
  | .line _ =>
      { host with script := { host.script with lines := host.script.lines ++ [typed] } }

/-- What a person is to see of an event. -/
def Event.told (level : Level) (onTerminal : Bool) : Event → Text
  | .shown view => view.screen ++ ['\n']
  | .prompted prompt => prompt
  | .warned message => notice .warning onTerminal message
  | .echoed command => command ++ ['\n']
  | .called _ => []
  | .logged record => if level.admits Level.debug then record.line ++ ['\n'] else []

namespace Flag

/-- What an option is for. -/
def purpose : Flag → Text
  | .help => "show this help and exit".toList
  | .local => "search the working directory and those above it for dotree.dt".toList
  | .config => "configuration file (default: $XDG_CONFIG_HOME/dotree.dt)".toList
  | .onInvalidKey => "what to do after a key that matches nothing: ".toList ++
      Text.joinWith ", ".toList (InvalidKeyPolicy.all.map (·.name))
  | .verbose => "more log output (repeat for everything)".toList
  | .version => "show the version and exit".toList

end Flag

namespace Program

/-- The first line of the help. -/
def usageLine : Text := "usage: dt [options] [keys] [args ...]\n".toList

/-- The help: a line for each option. -/
def helpText : Text :=
  usageLine ++ ['\n'] ++ Flag.all.flatMap fun flag =>
    "  ".toList ++ flag.shown ++ ": ".toList ++ flag.purpose ++ ['\n']

end Program

end KeyMenu
