import KeyMenu.Navigation.Place

/-!
# What a menu shows

A `View` is all that is needed to draw a menu: the titles on the way to it, its entries with their
labels, what has been typed, and the last message. `Place.view?` gives none only where a menu that
has to be named does not exist.
-/

namespace KeyMenu

/-- An entry leads to a menu or runs a command. -/
inductive EntryKind
  | menu
  | command
  deriving DecidableEq

/-- An entry as it is shown. -/
structure VisibleEntry where
  key : Text
  label : Text
  kind : EntryKind
  deriving DecidableEq

/-- A menu as it is shown. -/
structure View where
  title : Text
  breadcrumb : Text
  entries : List VisibleEntry
  pending : Text
  message : Option Text
  deriving DecidableEq

namespace Config

/-- The title of a menu of the given name. -/
def title? (c : Config) (name : Text) : Option Text := (c.menu? name).map (·.displayTitle)

/-- An entry as it is shown: a sub-menu by its title, a command by its label. -/
def visibleEntry? (c : Config) (key : Text) : Entry → Option VisibleEntry
  | .submenu name => (c.title? name).map (⟨key, ·, .menu⟩)
  | .command command => some ⟨key, command.label, .command⟩

/-- The entries of a menu, in order. -/
def visibleEntries? (c : Config) (m : Menu) : Option (List VisibleEntry) :=
  m.entries.mapM fun (key, entry) => c.visibleEntry? key entry

/-- The titles of the root menu and of the menus on a path, in order. -/
def breadcrumb? (c : Config) (path : List Text) : Option Text :=
  ((rootName :: path).mapM c.title?).map (Text.joinWith " > ".toList)

end Config

/-- What is shown at a place, with the given message. -/
def Place.view? (c : Config) (p : Place) (message : Option Text) : Option View := do
  let m ← c.menu? p.menu
  let breadcrumb ← c.breadcrumb? p.path
  let entries ← c.visibleEntries? m
  return ⟨m.displayTitle, breadcrumb, entries, p.pending, message⟩

end KeyMenu
