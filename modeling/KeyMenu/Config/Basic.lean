import KeyMenu.Expr.Basic
import KeyMenu.Shell.Basic

/-!
# Configurations

A configuration is a graph of menus. A menu gives keys to entries, and an entry leads to another
menu, which it names, or runs a command. Menus may be shared and may lead back to one another.

* `Command`, with `Options` where it is written as a block;
* `Entry`, `Menu`, `Settings`, `Config`, and `Config.menu?`;
* `Config.sameAs`: equality up to the order of menus, entries and snippets.
-/

namespace KeyMenu

/-- A variable of a command, which is handed to it under its own name. -/
structure Variable where
  name : Text
  default : Option Text
  deriving DecidableEq

/-- What only a command block can say. A command that `repeats` leads back to its menu, and one
that `ignoresResult` may fail. -/
structure Options where
  repeats : Bool
  ignoresResult : Bool
  vars : List Variable
  shell : Option Shell
  deriving DecidableEq

/-- A command: the expression it runs, its display name if it has one, whether it flips the echo
setting of the file, and the options of its block if it is one. -/
structure Command where
  expr : Expr
  name : Option Text
  togglesEcho : Bool
  options : Option Options
  deriving DecidableEq

namespace Command

/-- How a menu shows the command. -/
def label (c : Command) : Text := c.name.getD c.expr.label

/-- The command leads back to its menu. -/
def repeats (c : Command) : Bool := c.options.any (·.repeats)

/-- The command may fail. -/
def ignoresResult (c : Command) : Bool := c.options.any (·.ignoresResult)

/-- The variables of the command, in order. -/
def vars (c : Command) : List Variable := (c.options.map (·.vars)).getD []

/-- The shell that the command asks for. -/
def shell (c : Command) : Option Shell := c.options.bind (·.shell)

end Command

/-- What a key leads to. -/
inductive Entry
  | submenu (menu : Text)
  | command (command : Command)
  deriving DecidableEq

namespace Entry

/-- The snippets that the entry uses. -/
def references : Entry → List Text
  | .submenu _ => []
  | .command c => c.expr.references

end Entry

/-- A menu: its name, its title if it has one, and its entries by key. -/
structure Menu where
  name : Text
  title : Option Text
  entries : Table Entry
  deriving DecidableEq

namespace Menu

/-- The title that is shown: the name stands in for a missing one. -/
def displayTitle (m : Menu) : Text := m.title.getD m.name

/-- The keys of the menu, in order. -/
def keys (m : Menu) : List Text := m.entries.names

/-- Equality up to the order of the entries. -/
def sameAs (a b : Menu) : Bool :=
  a.name == b.name && a.title == b.title && a.entries.sameAs (· == ·) b.entries

end Menu

/-- The settings of a whole configuration. -/
structure Settings where
  shell : Option Shell
  echo : Bool
  deriving DecidableEq

/-- A configuration. -/
structure Config where
  settings : Settings
  snippets : Snippets
  menus : List Menu
  deriving DecidableEq

/-- The menu in which every session begins. -/
def rootName : Text := "root".toList

namespace Config

/-- The menu of a name. -/
def menu? (c : Config) (name : Text) : Option Menu := c.menus.find? (·.name == name)

theorem name_of_menu? {c : Config} {name : Text} {m : Menu} (h : c.menu? name = some m) :
    m.name = name := by
  simpa using List.find?_some h

theorem mem_of_menu? {c : Config} {name : Text} {m : Menu} (h : c.menu? name = some m) :
    m ∈ c.menus := List.mem_of_find?_eq_some h

/-- Equality up to the order of menus, entries and snippets. -/
def sameAs (a b : Config) : Bool :=
  a.settings == b.settings && a.snippets.sameAs (· == ·) b.snippets &&
    Table.sameAs Menu.sameAs (a.menus.map fun m => (m.name, m))
      (b.menus.map fun m => (m.name, m))

end Config

end KeyMenu
