import KeyMenu.Navigation.Match
import KeyMenu.Text.Quoted

/-!
# Walking through menus by typing

A `Place` is a menu, the text typed there that has not yet made a key, the menus entered on the
way from the root menu, and the number of code points that have made keys so far. `Place.feed`
types a text: keys of sub-menus lead on, the key of a command selects it, and what comes after
that key is its remainder.

* `Place`, and `Place.reset`, `Place.enter`, `Place.clearPending`, `Place.backspace`;
* `Selection`, `UnmatchedKeys`, `Reading`: what comes of typing;
* `Place.feed`.
-/

namespace KeyMenu

/-- Where someone stands in the menus. -/
structure Place where
  menu : Text
  pending : Text
  path : List Text
  consumed : Nat
  deriving DecidableEq

/-- A command that has been selected: its key, the menu it was found in and the path to that menu,
and the text typed after the key. -/
structure Selection where
  command : Command
  key : Text
  menu : Text
  path : List Text
  remainder : Text
  deriving DecidableEq

/-- Why typed text selects nothing. -/
inductive MismatchReason
  | noEntry
  | incomplete
  deriving DecidableEq

/-- The wording of a reason. -/
def MismatchReason.message : MismatchReason → Text
  | .noEntry => "no entry matches".toList
  | .incomplete => "incomplete key sequence".toList

/-- Typed text that selects nothing in a menu; `position` counts the code points typed up to the
first that no entry allows. -/
structure UnmatchedKeys where
  menu : Text
  keys : Text
  position : Nat
  reason : MismatchReason
  deriving DecidableEq

/-- The message about unmatched keys. -/
def UnmatchedKeys.message (e : UnmatchedKeys) : Text :=
  e.reason.message ++ ": ".toList ++ e.keys.quoted ++ " in menu '".toList ++ e.menu ++
    "' (input position ".toList ++ Text.ofNat e.position ++ [')']

/-- What comes of typing: more is needed, a command is selected, the text matches no key, or the
place names a menu that does not exist. -/
inductive Reading
  | waiting
  | selected (selection : Selection)
  | unmatched (error : UnmatchedKeys)
  | missingMenu (name : Text)
  deriving DecidableEq

/-- What a log can tell about a step of typing. -/
inductive WalkNote
  | pending (typed : Text) (candidates : List Text)
  | entering (key menu : Text)
  | command (key menu : Text)
  deriving DecidableEq

/-- The outcome of typing, the place afterwards, and the notes on the way. -/
structure Feed where
  reading : Reading
  place : Place
  notes : List WalkNote
  deriving DecidableEq

namespace Place

/-- The root menu with nothing typed. -/
def start : Place := ⟨rootName, [], [], 0⟩

/-- Back to the root menu; the count of code points goes on. -/
def reset (p : Place) : Place := { p with menu := rootName, pending := [], path := [] }

/-- To a menu by the given path, with nothing typed. -/
def enter (menu : Text) (path : List Text) (p : Place) : Place :=
  { p with menu := menu, pending := [], path := path }

/-- Forgets what has been typed and not yet used. -/
def clearPending (p : Place) : Place := { p with pending := [] }

/-- Forgets the last code point of what has been typed and not yet used. -/
def backspace (p : Place) : Place := { p with pending := p.pending.dropLast }

/-- The place after a key: the rest of the typed text is pending in the given menu. -/
def step (key menu : Text) (p : Place) : Place :=
  { menu := menu
    pending := p.pending.drop key.length
    path := p.path ++ [menu]
    consumed := p.consumed + key.length }

/-- Reads the pending text as far as it goes. A key takes text away, so that this comes to an end;
no menu that is read from a text has an empty key. -/
def settle (c : Config) (p : Place) : Feed :=
  if p.pending = [] then ⟨.waiting, p, []⟩
  else
    match c.menu? p.menu with
    | none => ⟨.missingMenu p.menu, p, []⟩
    | some m =>
        match m.matchTyped p.pending with
        | .pending candidates => ⟨.waiting, p, [.pending p.pending candidates]⟩
        | .miss shared =>
            ⟨.unmatched ⟨m.name, p.pending, p.consumed + shared + 1, .noEntry⟩, p, []⟩
        | .hit key (.command command) =>
            { reading := .selected ⟨command, key, m.name, p.path, p.pending.drop key.length⟩
              place := { p with pending := [], consumed := p.consumed + key.length }
              notes := [.command key m.name] }
        | .hit key (.submenu name) =>
            let next := p.step key name
            if next.pending.length < p.pending.length then
              let feed := settle c next
              { feed with notes := .entering key name :: feed.notes }
            else ⟨.waiting, next, [.entering key name]⟩
termination_by p.pending.length

/-- Types a text. -/
def feed (c : Config) (p : Place) (text : Text) : Feed :=
  settle c { p with pending := p.pending ++ text }

@[simp] theorem settle_of_pending_nil (c : Config) {p : Place} (h : p.pending = []) :
    settle c p = ⟨.waiting, p, []⟩ := by
  rw [settle, if_pos h]

end Place

end KeyMenu
