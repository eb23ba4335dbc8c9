import KeyMenu.Proofs.Tree.Gap
import KeyMenu.Proofs.Tree.Spelling

/-!
# The leaves of a tree

A tree says which tokens its text consists of, in which order, and for some of them where they
stand. That is its list of leaves.

* `Tree.Token`: the kinds of tokens, with `Token.Spelled`, the ways in which one can be written,
  and `Token.gap`, the kind of gap that may stand in front of it;
* `Tree.Leaf`: a token with the position that the tree keeps for it, if it keeps one, and the
  leaves of each construct;
* `Position.behind`: line and column behind a text, by counting;
* `Laid before leaves text`: behind `before`, the text is a concatenation of the leaves with gaps
  between them, and every position that is kept is right.
-/

namespace KeyMenu

/-! ### Positions by counting -/

namespace Position

/-- The line and the column behind a text: one more than the number of its line ends, and one more
than the number of code points behind the last of them. -/
def behind (before : Text) : Position :=
  ⟨before.count '\n' + 1, (before.reverse.takeWhile (· ≠ '\n')).length + 1⟩

theorem behind_concat (before : Text) (c : Char) :
    behind (before ++ [c]) = (behind before).after c := by
  by_cases hc : c = '\n'
  · subst hc
    simp [behind, after]
  · simp [behind, after, hc, List.count_append]

/-- Reading on from behind a text. -/
theorem behind_append (before t : Text) : behind (before ++ t) = (behind before).afterText t := by
  induction t generalizing before with
  | nil => simp
  | cons c t ih =>
      rw [afterText_cons, ← behind_concat, ← ih, List.append_assoc, List.singleton_append]

end Position

namespace Tree

/-! ### Tokens -/

/-- A token of a configuration text, by what it says. -/
inductive Token
  | word (word : Text)
  | mark (c : Char)
  | name (name : Text)
  | key (key : Text)
  | string (value : Text)
  | reference (name : Text)
  | shellWord (value : Text)
  deriving DecidableEq

/-- What can stand as a name. -/
def IsName (t : Text) : Prop := t ≠ [] ∧ ∀ c ∈ t, isSymbolChar c = true

instance (t : Text) : Decidable (IsName t) :=
  decidable_of_iff (t ≠ [] ∧ t.all isSymbolChar = true) (by simp [IsName])

/-- What can stand as a key. -/
def IsKey (t : Text) : Prop := t ≠ [] ∧ (∀ c ∈ t, isKeyChar c = true) ∧ t.head? ≠ some '#'

/-- What can stand in a shell line as it is: white space ends it, and it begins neither a comment
nor a string. -/
def IsBareWord (t : Text) : Prop :=
  t ≠ [] ∧ (∀ c ∈ t, isBlank c = false) ∧ t.head? ≠ some '#' ∧ t.head? ≠ some '"' ∧
    protectedOpening t = none

namespace Token

/-- The text writes the token. -/
def Spelled : Token → Text → Prop
  | word w, s => s = w
  | mark c, s => s = [c]
  | name n, s => IsName n ∧ s = n
  | key k, s => IsKey k ∧ s = k
  | string v, s => Text.Spells v s
  | reference n, s => IsName n ∧ s = '$' :: n
  | shellWord v, s => Text.Spells v s ∨ IsBareWord v ∧ s = v

/-- A colon, a plus or a minus sign and a word of a shell line stand on the line of the token before
them; in front of any other token there may be line ends. -/
def gap : Token → Gap
  | mark c => if c = ':' ∨ c = '+' ∨ c = '-' then .sameLine else .anyLine
  | shellWord _ => .sameLine
  | _ => .anyLine

end Token

/-- A token of a tree, and where the tree says that it stands. -/
structure Leaf where
  token : Token
  pos : Option Position := none
  deriving DecidableEq

/-! ### The leaves of each construct -/

/-- Items with commas between them. -/
def listed : List (List Leaf) → List Leaf
  | [] => []
  | first :: more => first ++ more.flatMap (⟨.mark ',', none⟩ :: ·)

def Symbol.leaf (s : Symbol) : Leaf := ⟨.name s.name, some s.pos⟩

def Piece.leaf : Piece → Leaf
  | .literal value pos => ⟨.string value, some pos⟩
  | .reference name pos => ⟨.reference name, some pos⟩

def Expression.leaves (e : Expression) : List Leaf :=
  e.head.leaf :: e.tail.flatMap fun p => [⟨.mark '+', none⟩, p.leaf]

def QuickCommand.leaves (q : QuickCommand) : List Leaf :=
  (match q.name with
    | none => []
    | some name => [⟨.string name, none⟩, ⟨.mark '-', none⟩]) ++
    (if q.togglesEcho then [⟨.mark '@', none⟩] else []) ++ q.expr.leaves

def Variable.leaves (v : Variable) : List Leaf :=
  ⟨.name v.name, some v.pos⟩ ::
    match v.default with
    | none => []
    | some value => [⟨.mark '=', none⟩, ⟨.string value, none⟩]

def ShellLine.leaves (l : ShellLine) : List Leaf :=
  ⟨.word "shell".toList, some l.pos⟩ :: l.shell.words.map fun w => ⟨.shellWord w, none⟩

def Clause.leaves : Clause → List Leaf
  | .set names => ⟨.word "set".toList, none⟩ :: listed (names.map fun s => [s.leaf])
  | .vars vs => ⟨.word "vars".toList, none⟩ :: listed (vs.map Variable.leaves)
  | .shell line => line.leaves

def CommandBlock.leaves (b : CommandBlock) : List Leaf :=
  ⟨.word "cmd".toList, some b.pos⟩ :: ⟨.mark '\x7b', none⟩ ::
    (b.clauses.flatMap Clause.leaves ++ (b.command.leaves ++ [⟨.mark '\x7d', none⟩]))

def EntryValue.leaves : EntryValue → List Leaf
  | .menu name => [name.leaf]
  | .quick q => q.leaves
  | .block b => b.leaves

def Entry.leaves (e : Entry) : List Leaf :=
  ⟨.key e.key, some e.pos⟩ :: ⟨.mark ':', none⟩ :: e.value.leaves

def Menu.leaves (m : Menu) : List Leaf :=
  ⟨.word "menu".toList, some m.pos⟩ ::
    (match m.title with
      | none => []
      | some title => [⟨.string title, none⟩]) ++
    ⟨.name m.name, none⟩ :: ⟨.mark '\x7b', none⟩ ::
      (m.entries.flatMap Entry.leaves ++ [⟨.mark '\x7d', none⟩])

def Snippet.leaves (s : Snippet) : List Leaf :=
  ⟨.word "snippet".toList, some s.pos⟩ :: ⟨.name s.name, none⟩ :: ⟨.mark '=', none⟩ :: s.expr.leaves

def Setting.leaves : Setting → List Leaf
  | .shell line => line.leaves
  | .echo on pos =>
      [⟨.word "echo".toList, some pos⟩, ⟨.word (if on then "on" else "off").toList, none⟩]

def Item.leaves : Item → List Leaf
  | .menu m => m.leaves
  | .snippet s => s.leaves

/-- The leaves of a whole tree, in the order of the grammar. -/
def File.leaves (f : File) : List Leaf :=
  f.settings.flatMap Setting.leaves ++ f.items.flatMap Item.leaves

/-- The clauses of a block, kind by kind, are all of its clauses, each kind in the order in which
the clauses are written. -/
def CommandBlock.KeepsOrder (b : CommandBlock) : Prop :=
  (b.settings.map .set).Sublist b.clauses ∧ (b.vars.map .vars).Sublist b.clauses ∧
    (b.shells.map .shell).Sublist b.clauses ∧
      b.settings.length + b.vars.length + b.shells.length = b.clauses.length

theorem CommandBlock.keepsOrder (b : CommandBlock) : b.KeepsOrder := by
  obtain ⟨clauses, command, pos⟩ := b
  simp only [KeepsOrder, settings, vars, shells]
  induction clauses with
  | nil => simp
  | cons c rest ih =>
      obtain ⟨hset, hvars, hshell, hlen⟩ := ih
      cases c with
      | set names =>
          refine ⟨hset.cons_cons _, hvars.cons _, hshell.cons _, ?_⟩
          simp only [List.filterMap_cons, List.length_cons]
          omega
      | vars vs =>
          refine ⟨hset.cons _, hvars.cons_cons _, hshell.cons _, ?_⟩
          simp only [List.filterMap_cons, List.length_cons]
          omega
      | shell line =>
          refine ⟨hset.cons _, hvars.cons _, hshell.cons_cons _, ?_⟩
          simp only [List.filterMap_cons, List.length_cons]
          omega

end Tree

open Tree

/-- Behind `before`, the text consists of the leaves with gaps around them; each leaf is spelled,
and stands where its tree says. -/
inductive Laid : Text → List Leaf → Text → Prop
  | finish {before g : Text} : Gap.anyLine.Fills [] g → Laid before [] g
  | leaf {before g s rest : Text} {leaf : Leaf} {leaves : List Leaf} :
      leaf.token.gap.Fills (s ++ rest) g → leaf.token.Spelled s →
      (∀ p ∈ leaf.pos, p = .behind (before ++ g)) → Laid (before ++ g ++ s) leaves rest →
      Laid before (leaf :: leaves) (g ++ s ++ rest)

end KeyMenu
