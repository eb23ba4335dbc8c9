import KeyMenu.Run.Command
import KeyMenu.Session.Policy

/-!
# Sessions

A session types the keys it was started with, then reads key after key at a terminal, until a
command is selected and run. A command that repeats leads back to its menu, if there is a terminal.

* `Session`: what does not change while it lasts; `Moment`: what does;
* `Session.press`: what one key does at a moment; `Session.execute`: running a selected command;
* `Session.readOn`: reading keys until the end; `Session.run`: the whole.
-/

namespace KeyMenu

/-- What a session goes by. The extra values are for the variables of its first command. -/
structure Session where
  config : Config
  around : Surroundings
  policy : InvalidKeyPolicy
  extra : List Text
  interactive : Bool

/-- A session about to read a key: the place, the message to be shown with the menu, the values
for the command to come, and the answers to come. -/
structure Moment where
  place : Place
  message : Option Text
  given : List Text
  script : Script

/-- How a session ends: well or with a failure, at a place, after some events. -/
structure SessionEnd where
  result : Except Failure Unit
  place : Place
  events : List Event

/-- The same end, with more events before it. -/
def SessionEnd.after (events : List Event) (e : SessionEnd) : SessionEnd :=
  { e with events := events ++ e.events }

@[simp] theorem SessionEnd.events_after (events : List Event) (e : SessionEnd) :
    (e.after events).events = events ++ e.events := rfl

@[simp] theorem SessionEnd.result_after (events : List Event) (e : SessionEnd) :
    (e.after events).result = e.result := rfl

@[simp] theorem SessionEnd.place_after (events : List Event) (e : SessionEnd) :
    (e.after events).place = e.place := rfl

/-- What a key leads to: the end, or the next key after some events. -/
inductive Step
  | ends (ending : SessionEnd)
  | goesOn (events : List Event) (next : Moment)

/-- The same step, with more events before it. -/
def Step.after (events : List Event) : Step → Step
  | .ends ending => .ends (ending.after events)
  | .goesOn more next => .goesOn (events ++ more) next

/-- The typed texts that take back a code point. -/
def isBackspace (key : Text) : Bool := key == ['\x7f'] || key == ['\x08']

/-- The message about invalid keys. -/
def noEntryMessage (keys : Text) : Text := "No entry for '".toList ++ keys ++ ['\x27']

namespace Session

/-- The values for a selected command are the words after its key and the given ones. -/
def values (given : List Text) (selection : Selection) : Except Failure (List Text) :=
  match selection.remainder.arguments with
  | .ok words => .ok (words ++ given)
  | .error error => .error (.unsplittable error)

/-- Runs a selected command. -/
def runSelected (s : Session) (given : List Text) (selection : Selection) : Act Int := do
  let values ← Act.ofExcept (values given selection)
  s.config.run s.around selection.command values

/-- A selected command is followed by further keys. -/
def goesOnAfter (s : Session) (selection : Selection) : Bool :=
  selection.command.repeats && s.interactive

/-- Runs a selected command and goes back to its menu if it repeats; only the first command takes
the extra values. -/
def execute (s : Session) (m : Moment) (place : Place) (selection : Selection) : Step :=
  let ending := (s.runSelected m.given selection).run m.script
  match ending.result with
  | .error failure => .ends ⟨.error failure, place, ending.events⟩
  | .ok _ =>
      if s.goesOnAfter selection then
        .goesOn (ending.events ++ [.logged (.repeating selection.menu)])
          ⟨place.enter selection.menu selection.path, none, [], ending.script⟩
      else .ends ⟨.ok (), place, ending.events⟩

/-- What a policy makes of invalid keys. -/
def recover (s : Session) (m : Moment) (place : Place) (error : UnmatchedKeys) : Step :=
  let told : List Event := [.logged (.invalidKeys error)]
  let message := some (noEntryMessage error.keys)
  match s.policy with
  | .exit => .ends ⟨.error (.unmatched error), place, []⟩
  | .reset => .goesOn told { m with place := place.reset, message := message }
  | .stay => .goesOn told { m with place := place.clearPending, message := message }

/-- What the log tells about typing. -/
def walked (feed : Feed) : List Event := feed.notes.map fun note => .logged (.walked note)

/-- What a typed key does. -/
def press (s : Session) (m : Moment) (key : Text) : Step :=
  if isBackspace key then
    .goesOn [] { m with place := m.place.backspace, message := none }
  else
    let feed := m.place.feed s.config key
    Step.after (walked feed) <|
      match feed.reading with
      | .waiting => .goesOn [] { m with place := feed.place, message := none }
      | .selected selection => s.execute m feed.place selection
      | .unmatched error => s.recover m feed.place error
      | .missingMenu name => .ends ⟨.error (.missingMenu name), feed.place, []⟩

/-- Shows the menu and reads a key, again and again. Where no key is left, someone interrupts. -/
def readOn (s : Session) (m : Moment) : List Text → SessionEnd
  | [] =>
      match m.place.view? s.config m.message with
      | none => ⟨.error (.missingMenu m.place.menu), m.place, []⟩
      | some view => ⟨.error .interrupted, m.place, [.shown view]⟩
  | key :: keys =>
      match m.place.view? s.config m.message with
      | none => ⟨.error (.missingMenu m.place.menu), m.place, []⟩
      | some view =>
          match s.press m key with
          | .ends ending => ending.after [.shown view]
          | .goesOn events next => (readOn s next keys).after (.shown view :: events)

/-- Goes on from a step with the keys that are left. -/
def resume (s : Session) (keys : List Text) : Step → SessionEnd
  | .ends ending => ending
  | .goesOn events next => (s.readOn next keys).after events

/-- The moment at which a session begins. -/
def opening (s : Session) (script : Script) : Moment := ⟨.start, none, s.extra, script⟩

/-- Keys that lead to no command, and no terminal to read more from. -/
def incomplete (s : Session) (place : Place) (keys : Text) : Failure :=
  match s.config.menu? place.menu with
  | none => .missingMenu place.menu
  | some menu => .unmatched ⟨menu.name, keys, keys.length, .incomplete⟩

/-- Types the keys that a session is started with. -/
def replay (s : Session) (script : Script) (keys : Text) : Step :=
  let feed := Place.start.feed s.config keys
  let fails (failure : Failure) : Step := .ends ⟨.error failure, feed.place, []⟩
  Step.after (walked feed) <|
    match feed.reading with
    | .waiting =>
        if s.interactive then .goesOn [] { s.opening script with place := feed.place }
        else fails (s.incomplete feed.place keys)
    | .selected selection => s.execute (s.opening script) feed.place selection
    | .unmatched error => fails (.unmatched error)
    | .missingMenu name => fails (.missingMenu name)

/-- A whole session: the keys it is started with, none or an empty text if it is to ask for all of
them, the keys that are typed, and the other answers. -/
def run (s : Session) (keys : Option Text) (typed : List Text) (script : Script) : SessionEnd :=
  match keys.filter (!·.isEmpty) with
  | some keys => s.resume typed (s.replay script keys)
  | none =>
      if s.interactive then s.readOn (s.opening script) typed
      else ⟨.error .noKeys, .start, []⟩

end Session

end KeyMenu
