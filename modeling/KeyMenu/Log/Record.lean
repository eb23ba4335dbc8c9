import KeyMenu.File.Path
import KeyMenu.Navigation.Place

/-!
# Log records

What the log can tell. A record names the part of the program that it comes from, and every record
is of the level at which everything is told.
-/

namespace KeyMenu

/-- What the log tells. -/
inductive LogRecord
  | parsed (settings items : Nat)
  | built (menus snippets : Nat)
  | loaded (path : Path)
  | walked (note : WalkNote)
  | invalidKeys (error : UnmatchedKeys)
  | exited (status : Int)
  | repeating (menu : Text)
  deriving DecidableEq

/-- The wording of a note about typing. -/
def WalkNote.message : WalkNote → Text
  | .pending typed candidates =>
      "pending ".toList ++ typed.quoted ++ ", candidates ".toList ++ Text.quotedList candidates
  | .entering key menu =>
      "key ".toList ++ key.quoted ++ ": entering menu '".toList ++ menu ++ ['\x27']
  | .command key menu =>
      "key ".toList ++ key.quoted ++ ": command in menu '".toList ++ menu ++ ['\x27']

namespace LogRecord

/-- The part of the program that a record comes from. -/
def source : LogRecord → Text
  | .parsed .. => "dotree_lib.config.parser".toList
  | .built .. => "dotree_lib.config.builder".toList
  | .loaded _ => "dotree_lib.config.loader".toList
  | .walked _ => "dotree_lib.repl.navigation".toList
  | .invalidKeys _ => "dotree_lib.repl.session".toList
  | .exited _ => "dotree_lib.repl.commands.run".toList
  | .repeating _ => "dotree_lib.repl.session".toList

/-- The wording of a record. -/
def message : LogRecord → Text
  | .parsed settings items =>
      "parsed ".toList ++ Text.ofNat settings ++ " settings, ".toList ++ Text.ofNat items ++
        " menus/snippets".toList
  | .built menus snippets =>
      "built ".toList ++ Text.ofNat menus ++ " menus and ".toList ++ Text.ofNat snippets ++
        " snippets".toList
  | .loaded path => "loaded ".toList ++ path.toText
  | .walked note => note.message
  | .invalidKeys error => "invalid key: ".toList ++ error.message
  | .exited status => "command exited with ".toList ++ Text.ofInt status
  | .repeating menu => "repeat: back to menu '".toList ++ menu ++ ['\x27']

/-- A record as a line of the log. -/
def line (r : LogRecord) : Text :=
  "DEBUG ".toList ++ r.source ++ ": ".toList ++ r.message

end LogRecord

end KeyMenu
