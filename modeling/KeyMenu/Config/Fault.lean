import KeyMenu.Config.Basic
import KeyMenu.Expr.Cycle
import KeyMenu.Tree.Basic

/-!
# Faults of configurations

What can be wrong with a configuration text that follows the grammar, and how it is said.
-/

namespace KeyMenu

/-- The kinds of clauses of a command block, for which only one clause each is allowed. -/
inductive ClauseKind
  | set
  | vars
  | shell
  deriving DecidableEq

/-- The keyword of a clause. -/
def ClauseKind.word : ClauseKind → Text
  | .set => "set".toList
  | .vars => "vars".toList
  | .shell => "shell".toList

/-- Something wrong with a configuration. -/
inductive Fault
  | shellSetAgain (pos : Position)
  | echoSetAgain (pos : Position)
  | duplicateSnippet (pos : Position) (name : Text)
  | duplicateMenu (pos : Position) (name : Text)
  | duplicateKey (pos : Position) (menu key : Text)
  | clauseAgain (pos : Position) (menu key : Text) (clause : ClauseKind)
  | unknownSetting (pos : Position) (name : Text)
  | variableAgain (pos : Position) (name : Text)
  | missingRoot
  | hiddenKey (menu short longer : Text)
  | undefinedMenu (menu key name : Text)
  | undefinedSnippet (menu key name : Text)
  | snippets (fault : SnippetFault)
  deriving DecidableEq

namespace Fault

/-- A name between single quotes. -/
def named (name : Text) : Text := '\x27' :: name ++ ['\x27']

/-- An entry as messages name it. -/
def entryText (menu key : Text) : Text :=
  "menu ".toList ++ named menu ++ ", key ".toList ++ named key

/-- The wording of a fault. -/
def message : Fault → Text
  | .shellSetAgain pos => pos.toText ++ ": 'shell' is set more than once".toList
  | .echoSetAgain pos => pos.toText ++ ": 'echo' is set more than once".toList
  | .duplicateSnippet pos name => pos.toText ++ ": duplicate snippet ".toList ++ named name
  | .duplicateMenu pos name => pos.toText ++ ": duplicate menu ".toList ++ named name
  | .duplicateKey pos menu key =>
      pos.toText ++ ": menu ".toList ++ named menu ++ ": duplicate key ".toList ++ named key
  | .clauseAgain pos menu key clause =>
      pos.toText ++ ": ".toList ++ entryText menu key ++ ": ".toList ++ named clause.word ++
        " given more than once".toList
  | .unknownSetting pos name => pos.toText ++ ": unknown command setting ".toList ++ named name
  | .variableAgain pos name =>
      pos.toText ++ ": variable ".toList ++ named name ++ " declared twice".toList
  | .missingRoot => "missing ".toList ++ named rootName ++ " menu".toList
  | .hiddenKey menu short longer =>
      "menu ".toList ++ named menu ++ ": key ".toList ++ named short ++
        " is a prefix of key ".toList ++ named longer ++ ", ".toList ++ named longer ++
        " could never be typed".toList
  | .undefinedMenu menu key name =>
      entryText menu key ++ ": undefined menu ".toList ++ named name
  | .undefinedSnippet menu key name =>
      entryText menu key ++ ": undefined snippet ".toList ++ named name
  | .snippets fault => fault.message

/-- The message that lists all faults of a configuration. -/
def listing (faults : List Fault) : Text :=
  "invalid configuration:\n  ".toList ++ Text.joinWith "\n  ".toList (faults.map message)

end Fault

end KeyMenu
