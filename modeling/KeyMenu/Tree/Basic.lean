import KeyMenu.Shell.Basic

/-!
# The tree of a configuration text

What a configuration text says, construct by construct, before any name is looked up. A node
keeps the position of its first token, so that a later complaint can point at it.

* `Position`: line and column, both from one;
* `Tree.Piece`, `Tree.Expression`: strings and snippet references, joined by `+`;
* `Tree.Clause`, `Tree.CommandBlock`, `Tree.QuickCommand`: the two forms of a command;
* `Tree.Entry`, `Tree.Menu`, `Tree.Snippet`, `Tree.Setting`, `Tree.File`.
-/

namespace KeyMenu

/-- A line and a column, both counted from one. Only LF ends a line here. -/
structure Position where
  line : Nat
  column : Nat
  deriving DecidableEq

namespace Position

/-- Where a text begins. -/
def start : Position := ⟨1, 1⟩

/-- The position after a code point. -/
def after (p : Position) (c : Char) : Position :=
  if c = '\n' then ⟨p.line + 1, 1⟩ else ⟨p.line, p.column + 1⟩

/-- The position after a text. -/
def afterText (p : Position) (t : Text) : Position := t.foldl after p

@[simp] theorem afterText_nil (p : Position) : p.afterText [] = p := rfl

@[simp] theorem afterText_cons (p : Position) (c : Char) (t : Text) :
    p.afterText (c :: t) = (p.after c).afterText t := rfl

@[simp] theorem afterText_append (p : Position) (s t : Text) :
    p.afterText (s ++ t) = (p.afterText s).afterText t := List.foldl_append

/-- A position as it is written in messages. -/
def toText (p : Position) : Text := Text.ofNat p.line ++ ':' :: Text.ofNat p.column

end Position

namespace Tree

/-- A name and where it stands. -/
structure Symbol where
  name : Text
  pos : Position
  deriving DecidableEq

/-- A piece of an expression: a string, already unescaped, or a reference to a snippet. -/
inductive Piece
  | literal (value : Text) (pos : Position)
  | reference (name : Text) (pos : Position)
  deriving DecidableEq

/-- Where a piece stands. -/
def Piece.pos : Piece → Position
  | .literal _ pos => pos
  | .reference _ pos => pos

/-- One or more pieces, joined left to right. -/
structure Expression where
  head : Piece
  tail : List Piece
  deriving DecidableEq

namespace Expression

/-- All pieces of an expression. -/
def pieces (e : Expression) : List Piece := e.head :: e.tail

/-- An expression stands where its first piece stands. -/
def pos (e : Expression) : Position := e.head.pos

end Expression

/-- An inline command: an expression, a display name if it has one, and whether it is marked to
flip the file's echo setting. -/
structure QuickCommand where
  expr : Expression
  name : Option Text
  togglesEcho : Bool
  deriving DecidableEq

/-- A variable of a command, with its default if it has one. -/
structure Variable where
  name : Text
  default : Option Text
  pos : Position
  deriving DecidableEq

/-- The shell that a shell line names. -/
structure ShellLine where
  shell : Shell
  pos : Position
  deriving DecidableEq

/-- A clause of a command block. -/
inductive Clause
  | set (names : List Symbol)
  | vars (vars : List Variable)
  | shell (line : ShellLine)
  deriving DecidableEq

/-- A command block: its clauses in the order in which they are written, then the command. -/
structure CommandBlock where
  clauses : List Clause
  command : QuickCommand
  pos : Position
  deriving DecidableEq

namespace CommandBlock

/-- The `set` clauses, in order. -/
def settings (b : CommandBlock) : List (List Symbol) :=
  b.clauses.filterMap fun
    | .set names => some names
    | _ => none

/-- The `vars` clauses, in order. -/
def vars (b : CommandBlock) : List (List Variable) :=
  b.clauses.filterMap fun
    | .vars vars => some vars
    | _ => none

/-- The `shell` clauses, in order. -/
def shells (b : CommandBlock) : List ShellLine :=
  b.clauses.filterMap fun
    | .shell line => some line
    | _ => none

end CommandBlock

/-- What a key leads to: another menu, an inline command or a command block. -/
inductive EntryValue
  | menu (name : Symbol)
  | quick (command : QuickCommand)
  | block (block : CommandBlock)
  deriving DecidableEq

/-- A key and what it leads to. -/
structure Entry where
  key : Text
  value : EntryValue
  pos : Position
  deriving DecidableEq

/-- A menu: its name, its title if it has one, and its entries in order. -/
structure Menu where
  name : Text
  title : Option Text
  entries : List Entry
  pos : Position
  deriving DecidableEq

/-- A named expression. -/
structure Snippet where
  name : Text
  expr : Expression
  pos : Position
  deriving DecidableEq

/-- A setting of the whole file. -/
inductive Setting
  | shell (line : ShellLine)
  | echo (on : Bool) (pos : Position)
  deriving DecidableEq

/-- A menu or a snippet. -/
inductive Item
  | menu (menu : Menu)
  | snippet (snippet : Snippet)
  deriving DecidableEq

/-- A whole configuration text: settings first, then menus and snippets. -/
structure File where
  settings : List Setting
  items : List Item
  deriving DecidableEq

end Tree

end KeyMenu
