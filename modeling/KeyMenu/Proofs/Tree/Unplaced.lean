import KeyMenu.Tree.Basic

/-!
# Trees up to positions

`unplaced` puts every node of a tree to the beginning of the text. Two trees that agree then say the
same, wherever their tokens stand.
-/

namespace KeyMenu.Tree

def Symbol.unplaced (s : Symbol) : Symbol := ⟨s.name, .start⟩

def Piece.unplaced : Piece → Piece
  | .literal value _ => .literal value .start
  | .reference name _ => .reference name .start

def Expression.unplaced (e : Expression) : Expression :=
  ⟨e.head.unplaced, e.tail.map Piece.unplaced⟩

def QuickCommand.unplaced (q : QuickCommand) : QuickCommand :=
  ⟨q.expr.unplaced, q.name, q.togglesEcho⟩

def Variable.unplaced (v : Variable) : Variable := ⟨v.name, v.default, .start⟩

def ShellLine.unplaced (l : ShellLine) : ShellLine := ⟨l.shell, .start⟩

def Clause.unplaced : Clause → Clause
  | .set names => .set (names.map Symbol.unplaced)
  | .vars vs => .vars (vs.map Variable.unplaced)
  | .shell line => .shell line.unplaced

def CommandBlock.unplaced (b : CommandBlock) : CommandBlock :=
  ⟨b.clauses.map Clause.unplaced, b.command.unplaced, .start⟩

def EntryValue.unplaced : EntryValue → EntryValue
  | .menu name => .menu name.unplaced
  | .quick q => .quick q.unplaced
  | .block b => .block b.unplaced

def Entry.unplaced (e : Entry) : Entry := ⟨e.key, e.value.unplaced, .start⟩

def Menu.unplaced (m : Menu) : Menu := ⟨m.name, m.title, m.entries.map Entry.unplaced, .start⟩

def Snippet.unplaced (s : Snippet) : Snippet := ⟨s.name, s.expr.unplaced, .start⟩

def Setting.unplaced : Setting → Setting
  | .shell line => .shell line.unplaced
  | .echo on _ => .echo on .start

def Item.unplaced : Item → Item
  | .menu m => .menu m.unplaced
  | .snippet s => .snippet s.unplaced

/-- A file with all its nodes at the beginning of the text. -/
def File.unplaced (f : File) : File :=
  ⟨f.settings.map Setting.unplaced, f.items.map Item.unplaced⟩

end KeyMenu.Tree
