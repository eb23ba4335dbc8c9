import KeyMenu.Display.View
import KeyMenu.Text.Blank

/-!
# Drawing a menu

A drawn menu is a list of styled fragments: the breadcrumb, one line for each entry with the keys
in a column, then the message and what has been typed. Entries that the typed text rules out are
dimmed.
-/

namespace KeyMenu

/-- How a fragment is drawn. -/
inductive Style
  | plain
  | breadcrumb
  | key
  | dimKey
  | submenu
  | command
  | info
  | error
  | pending
  deriving DecidableEq

/-- The class of a style, under which its colours are set. -/
def Style.className : Style → Text
  | .plain => []
  | .breadcrumb => "class:breadcrumb".toList
  | .key => "class:key".toList
  | .dimKey => "class:key.dim".toList
  | .submenu => "class:submenu".toList
  | .command => "class:command".toList
  | .info => "class:info".toList
  | .error => "class:error".toList
  | .pending => "class:pending".toList

/-- A piece of text in one style. -/
structure Fragment where
  style : Style
  text : Text
  deriving DecidableEq

namespace VisibleEntry

/-- The label in one line: of several lines the first is shown, with a mark. A sub-menu ends in a
slash. -/
def lineLabel (e : VisibleEntry) : Text :=
  let first := match Text.lines e.label with
    | [] => []
    | [line] => line
    | line :: _ => line ++ " ...".toList
  match e.kind with
  | .menu => first ++ ['/']
  | .command => first

/-- The typed text could still become the key of the entry. -/
def isReachable (pending : Text) (e : VisibleEntry) : Bool := pending.isPrefixOf e.key

/-- The line of an entry, its key filled up to the given width. -/
def fragments (pending : Text) (width : Nat) (e : VisibleEntry) : List Fragment :=
  let reachable := e.isReachable pending
  let labelStyle := match reachable, e.kind with
    | false, _ => Style.info
    | true, .menu => Style.submenu
    | true, .command => Style.command
  [⟨.plain, [' ', ' ']⟩,
    ⟨if reachable then .key else .dimKey, e.key ++ List.replicate (width - e.key.length) ' '⟩,
    ⟨.plain, [' ', ' ']⟩,
    ⟨labelStyle, e.lineLabel⟩,
    ⟨.plain, ['\n']⟩]

end VisibleEntry

namespace View

/-- The width of the longest key. -/
def keyWidth (v : View) : Nat := (v.entries.map (·.key.length)).foldl max 0

/-- The drawn menu. -/
def fragments (v : View) : List Fragment :=
  [⟨.breadcrumb, v.breadcrumb⟩, ⟨.plain, ['\n']⟩] ++
    v.entries.flatMap (VisibleEntry.fragments v.pending v.keyWidth) ++
    (match v.message with
      | some (c :: text) => [⟨.error, c :: text ++ ['\n']⟩]
      | _ => []) ++
    (if v.pending.isEmpty then [] else [⟨.pending, v.pending⟩])

/-- The text of the drawn menu. -/
def screen (v : View) : Text := v.fragments.flatMap (·.text)

end View

end KeyMenu
