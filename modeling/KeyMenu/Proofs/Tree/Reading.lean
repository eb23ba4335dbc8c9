import KeyMenu.Proofs.Tree.Token
import Mathlib.Data.List.Chain

/-!
# What a tree that has been read says about its text

Every rule of the grammar reads the leaves of what it finds, one after the other, with nothing but
gaps in front of them.

* `Reads leaves c next`: from `c` to `next` there are the leaves, each at its position;
* `Tree.File.Proper`: the tree has the items that the grammar asks for;
* one lemma for each rule of the grammar;
* `Tree.File.laid_of_parse`: the text of a tree is laid out as the tree says.
-/

namespace KeyMenu

open Tree

/-! ### Leaves between two cursors -/

/-- From `c` to `next` the text consists of the leaves, with gaps in front of them. -/
inductive Reads : List Leaf → Cursor → Cursor → Prop
  | done {c : Cursor} : Reads [] c c
  | leaf {c next : Cursor} {g s rest : Text} {leaf : Leaf} {leaves : List Leaf} :
      c.rest = g ++ (s ++ rest) → leaf.token.gap.Fills (s ++ rest) g → leaf.token.Spelled s →
      (∀ p ∈ leaf.pos, p = (c.past g).pos) → Reads leaves ((c.past g).past s) next →
      Reads (leaf :: leaves) c next

namespace Reads

variable {leaves more : List Leaf} {leaf : Leaf} {c mid next : Cursor}

theorem append (h : Reads leaves c mid) (h' : Reads more mid next) :
    Reads (leaves ++ more) c next := by
  induction h with
  | done => exact h'
  | leaf hrest hgap hs hpos _ ih => exact .leaf hrest hgap hs hpos (ih h')

theorem cons (h : Reads [leaf] c mid) (h' : Reads more mid next) : Reads (leaf :: more) c next :=
  h.append h'

/-- Positions may be left out. -/
theorem unplaced {token : Token} {pos : Option Position}
    (h : Reads (⟨token, pos⟩ :: leaves) c next) : Reads (⟨token, none⟩ :: leaves) c next := by
  cases h with
  | leaf hrest hgap hs _ h => exact .leaf hrest hgap hs (fun _ hp => nomatch hp) h

/-- A single leaf behind a gap that has been skipped. -/
theorem of_skips {gap : Gap} {g s rest : Text} (h : c.Skips gap g (s ++ rest))
    (hgap : leaf.token.gap = gap) (hs : leaf.token.Spelled s)
    (hpos : ∀ p ∈ leaf.pos, p = (c.past g).pos) : Reads [leaf] c ((c.past g).past s) :=
  .leaf h.1 (hgap ▸ h.2.1) hs hpos .done

theorem length_le (h : Reads leaves c next) : next.rest.length ≤ c.rest.length := by
  induction h with
  | done => exact le_rfl
  | leaf _ _ _ _ _ ih =>
      exact ih.trans ((Cursor.length_rest_past_le _ _).trans (Cursor.length_rest_past_le _ _))

/-- Leaves take text away. -/
theorem length_lt (h : Reads (leaf :: leaves) c next) (hne : ¬ leaf.token.Spelled []) :
    next.rest.length < c.rest.length := by
  cases h with
  | @leaf _ _ g s rest _ _ hrest _ hs _ h =>
      have hpos : 0 < s.length := List.length_pos_iff.2 fun he => hne (he ▸ hs)
      have hle := h.length_le
      rw [Cursor.rest_past (Cursor.rest_past hrest)] at hle
      simp only [hrest, List.length_append]
      omega

/-- Every leaf that is read can be spelled. -/
theorem spelled (h : Reads leaves c next) : ∀ leaf ∈ leaves, ∃ s, leaf.token.Spelled s := by
  induction h with
  | done => exact fun _ hl => nomatch hl
  | leaf _ _ hs _ _ ih => exact List.forall_mem_cons.2 ⟨⟨_, hs⟩, ih⟩

/-- Behind a text, leaves up to a last gap are laid out as their positions say. -/
theorem laid {before : Text} (h : Reads leaves c next) (hpos : c.pos = .behind before)
    (hend : Gap.anyLine.Fills [] next.rest) : Laid before leaves c.rest := by
  induction h generalizing before with
  | done => exact .finish hend
  | @leaf c next g s rest leaf leaves hrest hgap hs hp _ ih =>
      have hplace (t : Text) (p : Cursor) (b : Text) (hb : p.pos = .behind b) :
          (p.past t).pos = .behind (b ++ t) := by
        rw [Position.behind_append, ← hb]
        rfl
      have hg := hplace g c before hpos
      have hlaid := ih (hplace s _ _ hg) hend
      rw [Cursor.rest_past (Cursor.rest_past hrest)] at hlaid
      rw [hrest, ← List.append_assoc]
      exact .leaf hgap hs (hg ▸ hp) hlaid

end Reads

/-! ### Trees that follow the grammar -/

namespace Tree

/-- A list of names or variables is not empty. -/
def Clause.Proper : Clause → Prop
  | .set names => names ≠ []
  | .vars vs => vs ≠ []
  | .shell _ => True

/-- The clauses of a block are proper. -/
def EntryValue.Proper : EntryValue → Prop
  | .block b => ∀ c ∈ b.clauses, c.Proper
  | _ => True

/-- The key `next` does not turn the value in front of it into the beginning of a block. -/
def EntryValue.Before (value : EntryValue) (next : Text) : Prop :=
  ∀ s, value = .menu s → s.name = "cmd".toList → next.head? ≠ some '\x7b'

/-- A menu has entries, of which none hides the next one. -/
def Menu.Proper (m : Menu) : Prop :=
  m.entries ≠ [] ∧ m.entries.IsChain (fun e next => e.value.Before next.key) ∧
    ∀ e ∈ m.entries, e.value.Proper

/-- The entries of a menu are proper. -/
def Item.Proper : Item → Prop
  | .menu m => m.Proper
  | .snippet _ => True

/-- A file has items. -/
def File.Proper (f : File) : Prop := f.items ≠ [] ∧ ∀ i ∈ f.items, i.Proper

end Tree

namespace Rule

variable {α : Type} {c next : Cursor}

/-! ### Tokens -/

theorem reads_mark {gap : Gap} {token : Char} {u : Unit} (hgap : (Token.mark token).gap = gap)
    (hf : Finds (mark gap token) c u next) : Reads [⟨.mark token, none⟩] c next := by
  obtain ⟨g, rest, h⟩ := c.exists_skips gap
  obtain ⟨more, rfl, rfl⟩ := (finds_mark h).1 hf
  exact .of_skips (s := [token]) h hgap rfl fun _ hp => nomatch hp

theorem reads_keyword {word : Text} {u : Unit} (hf : Finds (keyword word) c u next) :
    Reads [⟨.word word, none⟩] c next := by
  obtain ⟨g, rest, h⟩ := c.exists_skips .anyLine
  obtain ⟨more, rfl, -, rfl⟩ := (finds_keyword h).1 hf
  exact .of_skips h rfl rfl fun _ hp => nomatch hp

/-- A rule that begins with a word keeps the position of the word. -/
theorem reads_placed {word : Text} {f : Position → Rule α} {a : α}
    (hf : Finds (do skip .anyLine; let pos ← here; keyword word; f pos) c a next) :
    ∃ pos mid, Reads [⟨.word word, some pos⟩] c mid ∧ Finds (f pos) mid a next := by
  obtain ⟨g, rest, h⟩ := c.exists_skips .anyLine
  rw [finds_skip_bind h, finds_here_bind, finds_bind] at hf
  obtain ⟨u, mid, hword, hf⟩ := hf
  obtain ⟨more, rfl, -, rfl⟩ := (finds_keyword h.again).1 hword
  refine ⟨_, _, .of_skips h rfl rfl fun p hp => ?_, hf⟩
  exact (Option.mem_some.1 hp).symm

theorem reads_symbol {what : Text} {s : Tree.Symbol} (hf : Finds (symbol what) c s next) :
    Reads [s.leaf] c next := by
  obtain ⟨g, rest, h⟩ := c.exists_skips .anyLine
  obtain ⟨hpos, hname, ⟨more, rfl, -⟩, rfl⟩ := (finds_symbol h).1 hf
  refine .of_skips h rfl ⟨hname, rfl⟩ fun p hp => ?_
  exact (Option.mem_some.1 hp).symm.trans hpos

theorem reads_string {v : Text} {pos : Position} (hf : Finds string c (v, pos) next) :
    Reads [⟨.string v, some pos⟩] c next := by
  obtain ⟨g, rest, h⟩ := c.exists_skips .anyLine
  obtain ⟨rfl, s, more, hs, rfl, rfl⟩ := (finds_string h).1 hf
  refine .of_skips h rfl hs fun p hp => ?_
  exact (Option.mem_some.1 hp).symm

theorem reads_shellWord {v : Text} (hf : Finds shellWord c v next) :
    Reads [⟨.shellWord v, none⟩] c next := by
  obtain ⟨g, rest, h⟩ := c.exists_skips .sameLine
  obtain ⟨s, more, rfl, hword, rfl⟩ := (finds_shellWord h).1 hf
  exact .of_skips h rfl (hword.imp id And.left) fun _ hp => nomatch hp

theorem reads_key {k : Text} {pos : Position} (hf : Finds key c (k, pos) next) :
    Reads [⟨.key k, some pos⟩, ⟨.mark ':', none⟩] c next := by
  obtain ⟨g, rest, h⟩ := c.exists_skips .anyLine
  obtain ⟨rfl, hkey, more, g', more', rfl, -, hgap, rfl⟩ := (finds_key h).1 hf
  refine .cons (.of_skips h rfl ⟨hkey, rfl⟩ fun p hp => ?_)
    (.of_skips (s := [':']) hgap rfl rfl fun _ hp => nomatch hp)
  exact (Option.mem_some.1 hp).symm

/-- A rule that is repeated reads the leaves of all its values. -/
theorem Repeats.reads {r : Rule α} {leaves : α → List Leaf}
    (hr : ∀ {c a next}, Finds r c a next → Reads (leaves a) c next) {values : List α}
    (h : Repeats r c values next) : Reads (values.flatMap leaves) c next := by
  induction h with
  | done _ => exact .done
  | again hf _ _ ih => exact (hr hf).append ih

/-- What holds of each value that a rule finds holds of all the values of its repetition. -/
theorem Repeats.forall_of_finds {r : Rule α} {P : α → Prop}
    (hr : ∀ {c a next}, Finds r c a next → P a) {values : List α} (h : Repeats r c values next) :
    ∀ a ∈ values, P a := by
  induction h with
  | done _ => exact fun _ ha => nomatch ha
  | again hf _ _ ih => exact List.forall_mem_cons.2 ⟨hr hf, ih⟩

/-- A rule that always reads a leaf takes text away. -/
theorem shortens_of_reads {r : Rule α} (hr : ∀ {c a next}, Finds r c a next →
    ∃ leaf leaves, Reads (leaf :: leaves) c next ∧ ¬ leaf.token.Spelled []) : Shortens r := by
  intro c a next hf
  obtain ⟨leaf, leaves, h, hne⟩ := hr hf
  exact h.length_lt hne

/-! ### Expressions -/

theorem reads_piece {p : Tree.Piece} (hf : Finds piece c p next) : Reads [p.leaf] c next := by
  rcases finds_orElse.1 hf with hf | ⟨-, hf⟩
  · obtain ⟨⟨v, pos⟩, mid, hs, hp⟩ := finds_bind.1 hf
    obtain ⟨rfl, rfl⟩ := finds_pure.1 hp
    exact reads_string hs
  · obtain ⟨g, rest, h⟩ := c.exists_skips .anyLine
    rw [finds_skip_bind h] at hf
    obtain ⟨name, more, rfl, hname, hrest, -, rfl⟩ := finds_referenceHere.1 hf
    rw [h.rest_past] at hrest
    subst hrest
    refine .of_skips (s := '$' :: name) h rfl ⟨hname, rfl⟩ fun p hp => ?_
    exact (Option.mem_some.1 hp).symm

/-- What is read in front of each further item of a list. -/
theorem reads_behind_mark {gap : Gap} {token : Char} {r : Rule α} {leaves : α → List Leaf} {a : α}
    (hgap : (Token.mark token).gap = gap)
    (hr : ∀ {c a next}, Finds r c a next → Reads (leaves a) c next)
    (hf : Finds (do mark gap token; commit r) c a next) :
    Reads (⟨.mark token, none⟩ :: leaves a) c next := by
  obtain ⟨u, mid, hmark, hf⟩ := finds_bind.1 hf
  exact (reads_mark hgap hmark).cons (hr (finds_commit.1 hf))

theorem shortens_behind_mark {gap : Gap} {token : Char} {r : Rule α} (leaves : α → List Leaf)
    (hgap : (Token.mark token).gap = gap)
    (hr : ∀ {c a next}, Finds r c a next → Reads (leaves a) c next) :
    Shortens (do mark gap token; commit r) :=
  shortens_of_reads fun hf => ⟨_, _, reads_behind_mark hgap hr hf, nofun⟩

theorem reads_expressionFrom {head : Tree.Piece} {e : Tree.Expression} {before : Cursor}
    (hhead : Reads [head.leaf] before c) (hf : Finds (expressionFrom head) c e next) :
    Reads e.leaves before next := by
  obtain ⟨tail, mid, htail, hp⟩ := finds_bind.1 hf
  obtain ⟨rfl, rfl⟩ := finds_pure.1 hp
  refine hhead.cons (((finds_many ?_).1 htail).reads ?_)
  · exact shortens_behind_mark (fun p => [p.leaf]) rfl reads_piece
  · exact reads_behind_mark rfl reads_piece

theorem reads_expression {e : Tree.Expression} (hf : Finds expression c e next) :
    Reads e.leaves c next := by
  obtain ⟨head, mid, hhead, hf⟩ := finds_bind.1 hf
  exact reads_expressionFrom (reads_piece hhead) hf

/-! ### Commands -/

theorem reads_toggle {o : Option Unit} (hf : Finds (optional (mark .anyLine '@')) c o next) :
    Reads (if o.isSome then [⟨.mark '@', none⟩] else []) c next := by
  rcases finds_optional.1 hf with ⟨u, rfl, hmark⟩ | ⟨rfl, rfl, -⟩
  · exact reads_mark rfl hmark
  · exact .done

theorem reads_quickCommand {q : Tree.QuickCommand} (hf : Finds quickCommand c q next) :
    Reads q.leaves c next := by
  obtain ⟨o, mid, ho, hf'⟩ := finds_bind.1 hf
  -- A string is the name if a minus sign follows it, and the first piece otherwise.
  rcases finds_optional.1 ho with ⟨⟨v, pos⟩, rfl, hs⟩ | ⟨rfl, rfl, -⟩
  · obtain ⟨dash, mid', ho', hcmd⟩ := finds_bind.1 hf'
    rcases finds_optional.1 ho' with ⟨u, rfl, hdash⟩ | ⟨rfl, rfl, -⟩
    · obtain ⟨toggle, mid'', htoggle, hexpr⟩ := finds_bind.1 (finds_commit.1 hcmd)
      obtain ⟨e, last, he, hp⟩ := finds_bind.1 hexpr
      obtain ⟨rfl, rfl⟩ := finds_pure.1 hp
      exact (((reads_string hs).unplaced.append (reads_mark rfl hdash)).append
        (reads_toggle htoggle)).append (reads_expression he)
    · obtain ⟨e, last, he, hp⟩ := finds_bind.1 hcmd
      obtain ⟨rfl, rfl⟩ := finds_pure.1 hp
      have hhead : Reads [(Tree.Piece.literal v pos).leaf] c mid' := reads_string hs
      exact reads_expressionFrom hhead he
  · obtain ⟨toggle, mid', ho', hcmd⟩ := finds_bind.1 hf'
    have htoggle := reads_toggle ho'
    rcases finds_optional.1 ho' with ⟨u, rfl, -⟩ | ⟨rfl, rfl, -⟩
    · obtain ⟨e, last, he, hp⟩ := finds_bind.1 (finds_commit.1 hcmd)
      obtain ⟨rfl, rfl⟩ := finds_pure.1 hp
      exact htoggle.append (reads_expression he)
    · obtain ⟨e, last, he, hp⟩ := finds_bind.1 hcmd
      obtain ⟨rfl, rfl⟩ := finds_pure.1 hp
      exact reads_expression he

/-! ### Clauses and blocks -/

theorem reads_commaList {item : Rule α} (leaves : α → List Leaf) {items : List α}
    (hitem : ∀ {c a next}, Finds item c a next → Reads (leaves a) c next)
    (hf : Finds (commaList item) c items next) :
    Reads (listed (items.map leaves)) c next ∧ items ≠ [] := by
  obtain ⟨first, mid, hfirst, hf⟩ := finds_bind.1 (finds_commit.1 hf)
  obtain ⟨more, last, hmore, hp⟩ := finds_bind.1 hf
  obtain ⟨rfl, rfl⟩ := finds_pure.1 hp
  have hreads := ((finds_many (shortens_behind_mark leaves rfl hitem)).1 hmore).reads
    (reads_behind_mark rfl hitem)
  refine ⟨?_, List.cons_ne_nil _ _⟩
  rw [List.map_cons, listed, List.flatMap_map]
  exact (hitem hfirst).append hreads

theorem reads_variableDefinition {v : Tree.Variable} (hf : Finds variableDefinition c v next) :
    Reads v.leaves c next := by
  obtain ⟨name, mid, hname, hf⟩ := finds_bind.1 hf
  obtain ⟨default, last, hdefault, hp⟩ := finds_bind.1 hf
  obtain ⟨rfl, rfl⟩ := finds_pure.1 hp
  refine (reads_symbol hname).cons ?_
  rcases finds_optional.1 hdefault with ⟨⟨value, pos⟩, rfl, hvalue⟩ | ⟨rfl, rfl, -⟩
  · obtain ⟨u, mid', hmark, hs⟩ := finds_bind.1 hvalue
    exact (reads_mark rfl hmark).cons (reads_string (finds_commit.1 hs)).unplaced
  · exact .done

theorem reads_shellLine {l : Tree.ShellLine} (hf : Finds shellLine c l next) :
    Reads l.leaves c next := by
  obtain ⟨pos, mid, hword, hf⟩ := reads_placed hf
  obtain ⟨shell, last, hshell, hp⟩ := finds_bind.1 hf
  obtain ⟨rfl, rfl⟩ := finds_pure.1 hp
  refine hword.cons ?_
  rw [List.map_eq_flatMap]
  exact (finds_shellWords.1 hshell).reads reads_shellWord

theorem reads_clause {cl : Clause} (hf : Finds clause c cl next) :
    Reads cl.leaves c next ∧ cl.Proper := by
  rcases finds_orElse.1 hf with hset | ⟨-, hf⟩
  · obtain ⟨u, mid, hword, hset⟩ := finds_bind.1 hset
    obtain ⟨names, last, hnames, hp⟩ := finds_bind.1 hset
    obtain ⟨rfl, rfl⟩ := finds_pure.1 hp
    obtain ⟨hreads, hne⟩ := reads_commaList (fun s => [s.leaf]) reads_symbol hnames
    exact ⟨(reads_keyword hword).cons hreads, hne⟩
  rcases finds_orElse.1 hf with hvars | ⟨-, hshell⟩
  · obtain ⟨u, mid, hword, hvars⟩ := finds_bind.1 hvars
    obtain ⟨vs, last, hvs, hp⟩ := finds_bind.1 hvars
    obtain ⟨rfl, rfl⟩ := finds_pure.1 hp
    obtain ⟨hreads, hne⟩ := reads_commaList Tree.Variable.leaves reads_variableDefinition hvs
    exact ⟨(reads_keyword hword).cons hreads, hne⟩
  · obtain ⟨line, mid, hline, hp⟩ := finds_bind.1 hshell
    obtain ⟨rfl, rfl⟩ := finds_pure.1 hp
    exact ⟨reads_shellLine hline, trivial⟩

theorem shortens_clause : Shortens clause :=
  shortens_of_reads fun {c cl next} hf => by
    have h := (reads_clause hf).1
    cases cl <;> exact ⟨_, _, h, nofun⟩

theorem reads_commandBlock {b : Tree.CommandBlock} (hf : Finds commandBlock c b next) :
    Reads b.leaves c next ∧ ∀ cl ∈ b.clauses, cl.Proper := by
  obtain ⟨pos, mid, hword, hf⟩ := reads_placed hf
  obtain ⟨u, mid', hopen, hbody⟩ := finds_bind.1 hf
  obtain ⟨clauses, mid'', hclauses, hbody⟩ := finds_bind.1 (finds_commit.1 hbody)
  obtain ⟨q, last, hq, hbody⟩ := finds_bind.1 hbody
  obtain ⟨u', last', hclose, hp⟩ := finds_bind.1 hbody
  obtain ⟨rfl, rfl⟩ := finds_pure.1 hp
  have hrepeat := (finds_many shortens_clause).1 hclauses
  refine ⟨hword.cons ((reads_mark rfl hopen).cons ?_), hrepeat.forall_of_finds
    fun hcl => (reads_clause hcl).2⟩
  exact (hrepeat.reads fun hcl => (reads_clause hcl).1).append
    ((reads_quickCommand hq).append (reads_mark rfl hclose))

/-! ### Entries and menus -/

theorem reads_entryValue {v : Tree.EntryValue} (hf : Finds entryValue c v next) :
    Reads v.leaves c next ∧ v.Proper := by
  rcases finds_orElse.1 (finds_commit.1 hf) with hblock | ⟨-, hf⟩
  · obtain ⟨b, mid, hb, hp⟩ := finds_bind.1 hblock
    obtain ⟨rfl, rfl⟩ := finds_pure.1 hp
    exact reads_commandBlock hb
  rcases finds_orElse.1 hf with hquick | ⟨-, hmenu⟩
  · obtain ⟨q, mid, hq, hp⟩ := finds_bind.1 hquick
    obtain ⟨rfl, rfl⟩ := finds_pure.1 hp
    exact ⟨reads_quickCommand hq, trivial⟩
  · obtain ⟨s, mid, hs, hp⟩ := finds_bind.1 hmenu
    obtain ⟨rfl, rfl⟩ := finds_pure.1 hp
    exact ⟨reads_symbol hs, trivial⟩

/-- Where the word `cmd` has been taken for the name of a menu, no brace follows. -/
theorem head?_of_finds_menu {s : Tree.Symbol} {g rest : Text}
    (hf : Finds entryValue c (.menu s) next) (hcmd : s.name = "cmd".toList)
    (h : next.Skips .anyLine g rest) : rest.head? ≠ some '\x7b' := by
  rcases finds_orElse.1 (finds_commit.1 hf) with hblock | ⟨hmiss, hf⟩
  · obtain ⟨b, mid, -, hp⟩ := finds_bind.1 hblock
    cases (finds_pure.1 hp).1
  rcases finds_orElse.1 hf with hquick | ⟨-, hmenu⟩
  · obtain ⟨q, mid, -, hp⟩ := finds_bind.1 hquick
    cases (finds_pure.1 hp).1
  obtain ⟨s', mid, hs, hp⟩ := finds_bind.1 hmenu
  obtain ⟨heq, rfl⟩ := finds_pure.1 hp
  cases heq
  obtain ⟨g', rest', h'⟩ := c.exists_skips .anyLine
  obtain ⟨-, -, ⟨more, hrest, hmore⟩, rfl⟩ := (finds_symbol h').1 hs
  rw [hcmd] at h hrest
  -- The block does not begin here, although its word does; so its brace is missing.
  have hword : Finds (keyword "cmd".toList) (c.past g') () ((c.past g').past "cmd".toList) :=
    (finds_keyword h'.again).2 ⟨more, hrest, hmore, rfl⟩
  rcases misses_bind.1 hmiss with hmiss | ⟨b, mid, -, hmiss⟩
  · rw [commandBlock, misses_skip_bind h', misses_here_bind] at hmiss
    rcases misses_bind.1 hmiss with hmiss | ⟨u, mid, hword', hmiss⟩
    · exact absurd hword hmiss.not_finds
    · obtain ⟨-, rfl⟩ := hword.unique hword'
      rcases misses_bind.1 hmiss with hmiss | ⟨u, mid, -, hmiss⟩
      · exact (misses_mark h).1 hmiss
      · exact absurd hmiss not_misses_commit
  · exact absurd hmiss not_misses_pure

theorem reads_entry {e : Tree.Entry} (hf : Finds entry c e next) :
    Reads e.leaves c next ∧ e.value.Proper := by
  obtain ⟨⟨k, pos⟩, mid, hkey, hf⟩ := finds_bind.1 hf
  obtain ⟨v, last, hv, hp⟩ := finds_bind.1 hf
  obtain ⟨rfl, rfl⟩ := finds_pure.1 hp
  obtain ⟨hreads, hproper⟩ := reads_entryValue hv
  exact ⟨(reads_key hkey).append hreads, hproper⟩

theorem shortens_entry : Shortens entry :=
  shortens_of_reads fun hf => ⟨_, _, (reads_entry hf).1, fun hs => hs.1.1 hs.2.symm⟩

/-- What an entry leads to is no beginning of a block together with the next key. -/
theorem before_of_finds {e e' : Tree.Entry} {mid : Cursor} (h : Finds entry c e mid)
    (h' : Finds entry mid e' next) : e.value.Before e'.key := by
  intro s hs hcmd
  obtain ⟨⟨k, pos⟩, mid₁, -, hf⟩ := finds_bind.1 h
  obtain ⟨v, mid₂, hv, hp⟩ := finds_bind.1 hf
  obtain ⟨rfl, rfl⟩ := finds_pure.1 hp
  obtain ⟨⟨k', pos'⟩, mid₃, hkey, hf'⟩ := finds_bind.1 h'
  obtain ⟨v', mid₄, -, hp'⟩ := finds_bind.1 hf'
  obtain ⟨rfl, rfl⟩ := finds_pure.1 hp'
  obtain ⟨g, rest, hskip⟩ := mid.exists_skips .anyLine
  obtain ⟨-, hname, more, -, -, rfl, -⟩ := (finds_key hskip).1 hkey
  obtain rfl : v = .menu s := hs
  rw [← List.head?_append_of_ne_nil k' hname.1]
  exact head?_of_finds_menu hv hcmd hskip

theorem isChain_of_repeats {entries : List Tree.Entry} (h : Repeats entry c entries next) :
    entries.IsChain fun e next => e.value.Before next.key := by
  induction h with
  | done _ => exact .nil
  | again hf _ h ih =>
      cases h with
      | done _ => exact .singleton _
      | again hf' _ _ => exact .cons_cons (before_of_finds hf hf') ih

theorem reads_menu {m : Tree.Menu} (hf : Finds menu c m next) :
    Reads m.leaves c next ∧ m.Proper := by
  obtain ⟨pos, mid, hword, hbody⟩ := reads_placed hf
  obtain ⟨title, mid₁, htitle, hbody⟩ := finds_bind.1 (finds_commit.1 hbody)
  obtain ⟨name, mid₂, hname, hbody⟩ := finds_bind.1 hbody
  obtain ⟨u, mid₃, hopen, hbody⟩ := finds_bind.1 hbody
  obtain ⟨entries, mid₄, hentries, hbody⟩ := finds_bind.1 hbody
  obtain ⟨u', last, hclose, hp⟩ := finds_bind.1 hbody
  obtain ⟨rfl, rfl⟩ := finds_pure.1 hp
  obtain ⟨hne, hrepeat⟩ := (finds_oneOrMore shortens_entry).1 hentries
  refine ⟨?_, hne, isChain_of_repeats hrepeat, hrepeat.forall_of_finds
    fun he => (reads_entry he).2⟩
  have htail := (reads_symbol hname).unplaced.cons <| (reads_mark rfl hopen).cons <|
    (hrepeat.reads fun he => (reads_entry he).1).append (reads_mark rfl hclose)
  refine (hword.append ?_).append htail
  rcases finds_optional.1 htitle with ⟨⟨t, tpos⟩, rfl, hs⟩ | ⟨rfl, rfl, -⟩
  · exact (reads_string hs).unplaced
  · exact .done

/-! ### Snippets, settings and files -/

theorem reads_snippet {s : Tree.Snippet} (hf : Finds snippet c s next) :
    Reads s.leaves c next := by
  obtain ⟨pos, mid, hword, hbody⟩ := reads_placed hf
  obtain ⟨name, mid₁, hname, hbody⟩ := finds_bind.1 (finds_commit.1 hbody)
  obtain ⟨u, mid₂, hmark, hbody⟩ := finds_bind.1 hbody
  obtain ⟨e, last, he, hp⟩ := finds_bind.1 hbody
  obtain ⟨rfl, rfl⟩ := finds_pure.1 hp
  exact hword.cons <| (reads_symbol hname).unplaced.cons <| (reads_mark rfl hmark).cons
    (reads_expression he)

theorem reads_echoSetting {s : Tree.Setting} (hf : Finds echoSetting c s next) :
    Reads s.leaves c next := by
  obtain ⟨pos, mid, hword, hf⟩ := reads_placed hf
  rcases finds_orElse.1 (finds_commit.1 hf) with hon | ⟨-, hoff⟩
  · obtain ⟨u, last, hon, hp⟩ := finds_bind.1 hon
    obtain ⟨rfl, rfl⟩ := finds_pure.1 hp
    exact hword.cons (reads_keyword hon)
  · obtain ⟨u, last, hoff, hp⟩ := finds_bind.1 hoff
    obtain ⟨rfl, rfl⟩ := finds_pure.1 hp
    exact hword.cons (reads_keyword hoff)

theorem reads_setting {s : Tree.Setting} (hf : Finds setting c s next) :
    Reads s.leaves c next := by
  rcases finds_orElse.1 hf with hshell | ⟨-, hecho⟩
  · obtain ⟨line, mid, hline, hp⟩ := finds_bind.1 hshell
    obtain ⟨rfl, rfl⟩ := finds_pure.1 hp
    exact reads_shellLine hline
  · exact reads_echoSetting hecho

theorem shortens_setting : Shortens setting :=
  shortens_of_reads fun {c s next} hf => by
    have h := reads_setting hf
    cases s <;> exact ⟨_, _, h, nofun⟩

theorem reads_item {i : Item} (hf : Finds item c i next) : Reads i.leaves c next ∧ i.Proper := by
  rcases finds_orElse.1 hf with hmenu | ⟨-, hsnippet⟩
  · obtain ⟨m, mid, hm, hp⟩ := finds_bind.1 hmenu
    obtain ⟨rfl, rfl⟩ := finds_pure.1 hp
    exact reads_menu hm
  · obtain ⟨s, mid, hs, hp⟩ := finds_bind.1 hsnippet
    obtain ⟨rfl, rfl⟩ := finds_pure.1 hp
    exact ⟨reads_snippet hs, trivial⟩

theorem shortens_item : Shortens item :=
  shortens_of_reads fun {c i next} hf => by
    have h := (reads_item hf).1
    cases i <;> exact ⟨_, _, h, nofun⟩

/-- A file is read up to a last gap. -/
theorem reads_file {f : Tree.File} (hf : Finds file c f next) :
    ∃ mid, Reads f.leaves c mid ∧ Gap.anyLine.Fills [] mid.rest ∧ f.Proper := by
  obtain ⟨settings, mid₁, hsettings, hf⟩ := finds_bind.1 hf
  obtain ⟨items, mid₂, hitems, hf⟩ := finds_bind.1 hf
  obtain ⟨g, rest, h⟩ := mid₂.exists_skips .anyLine
  rw [finds_skip_bind h, finds_rest_bind, h.rest_past] at hf
  split at hf
  · exact absurd (finds_commit.1 hf) not_finds_failure
  · rename_i hends
    obtain ⟨rfl, rfl⟩ := finds_pure.1 hf
    simp only [Bool.or_eq_true, not_or, Bool.not_eq_true, Bool.not_eq_false',
      List.isEmpty_iff] at hends
    obtain ⟨hne, rfl⟩ := hends
    have hrepeat := (finds_many shortens_item).1 hitems
    refine ⟨mid₂, ?_, ?_, hne, hrepeat.forall_of_finds fun hi => (reads_item hi).2⟩
    · exact (((finds_many shortens_setting).1 hsettings).reads reads_setting).append
        (hrepeat.reads fun hi => (reads_item hi).1)
    · rw [h.1, List.append_nil]
      exact h.2.1

/-- What a text is read as is found at its beginning. -/
theorem finds_of_parse_eq_ok {r : Rule α} {text : Text} {a : α} (h : r.parse text = .ok a) :
    ∃ next, Finds r (.start text) a next := by
  unfold parse at h
  cases hr : r (.start text) with
  | found b next notes =>
      rw [hr] at h
      cases h
      exact ⟨next, notes, hr⟩
  | absent _ | failed _ | strayBlank => rw [hr] at h; cases h

end Rule

namespace Tree.File

theorem finds_of_parse {text : Text} {tree : File} (h : parse text = .ok tree) :
    ∃ next, Rule.Finds Rule.file (.start text) tree next := Rule.finds_of_parse_eq_ok h

/-- A tree that has been read follows the grammar. -/
theorem proper_of_parse {text : Text} {tree : File} (h : parse text = .ok tree) : tree.Proper := by
  obtain ⟨next, hf⟩ := finds_of_parse h
  obtain ⟨mid, -, -, hproper⟩ := Rule.reads_file hf
  exact hproper

/-- What a tree that has been read consists of can be spelled. -/
theorem spelled_of_parse {text : Text} {tree : File} (h : parse text = .ok tree) :
    ∀ leaf ∈ tree.leaves, ∃ s, leaf.token.Spelled s := by
  obtain ⟨next, hf⟩ := finds_of_parse h
  obtain ⟨mid, hreads, -, -⟩ := Rule.reads_file hf
  exact hreads.spelled

/-- **The whole text is laid out as its tree says**: it consists of the leaves of the tree, each
spelled and placed as the tree has it, with nothing but gaps between them. -/
theorem laid_of_parse {text : Text} {tree : File} (h : parse text = .ok tree) :
    Laid [] tree.leaves text ∧
      ∀ m, .menu m ∈ tree.items → ∀ e ∈ m.entries, ∀ b, e.value = .block b → b.KeepsOrder := by
  obtain ⟨next, hf⟩ := finds_of_parse h
  obtain ⟨mid, hreads, hend, -⟩ := Rule.reads_file hf
  have hstart : (Cursor.start text).pos = .behind [] := rfl
  exact ⟨hreads.laid hstart hend, fun m _ e _ b _ => b.keepsOrder⟩

/-- A comment, a key of two signs, a block and a protected string. -/
theorem laid_of_parse_block :
    let text :=
      "menu root \x7b # top\n  a+: cmd \x7b shell sh -c\n !m\"x\"m! + $s \x7d \x7d".toList
    ∃ tree, parse text = .ok tree ∧ Laid [] tree.leaves text := by
  intro text
  have hparse : (parse text).toOption.isSome = true := by decide +kernel
  cases h : parse text with
  | error e =>
      rw [h] at hparse
      cases hparse
  | ok tree => exact ⟨tree, rfl, (laid_of_parse h).1⟩

end Tree.File

end KeyMenu
