import KeyMenu.Proofs.Tree.Completeness

/-!
# Spacing

How a tree can be put on paper, said by the gaps between its tokens alone. White space keeps
neighbours apart, and comments may stand behind it. Some tokens stay on the line of the token before
them, and some gaps have to end the line. Nothing is said here about where the reading of a token
stops: that follows.

* `Spacing`: the texts of gaps; `Tree.Token.Apart`: the gaps that may stand between two tokens;
* `Spaced before toks text`: the text consists of the tokens, with such gaps between them;
* `Spaced.layout`: the tokens of a tree that are spaced can be told apart;
* `Tree.File.parse_of_spaced`: the main theorem.
-/

namespace KeyMenu

open Tree

/-! ### Gaps -/

/-- White space and comments, each of which runs to the end of its line. -/
inductive Spacing : Text → Prop
  | nil : Spacing []
  | space {c : Char} {g : Text} : Gap.anyLine.isSpace c = true → Spacing g → Spacing (c :: g)
  | comment {body g : Text} : '\n' ∉ body → Spacing g → Spacing ('#' :: (body ++ '\n' :: g))

/-- A line ends inside the gap. -/
def BreaksLine (g : Text) : Prop := ∃ c ∈ g, c = '\r' ∨ c = '\n'

theorem isSymbolChar_of_isSpace {c : Char} (h : Gap.anyLine.isSpace c = true) :
    isSymbolChar c = false := by
  simp only [Gap.isSpace, Bool.or_eq_true, beq_iff_eq] at h
  rcases h with ((rfl | rfl) | rfl) | rfl <;> rfl

/-- The gap consists of spaces and tabs. -/
def Inline (g : Text) : Prop := ∀ c ∈ g, Gap.sameLine.isSpace c = true

theorem Inline.fills {g : Text} (h : Inline g) (after : Text) : Gap.sameLine.Fills after g := by
  induction g with
  | nil => exact .nil
  | cons c g ih =>
      obtain ⟨hc, hg⟩ := List.forall_mem_cons.1 h
      exact .space hc (ih hg)

theorem Spacing.fills {g : Text} (h : Spacing g) (after : Text) : Gap.anyLine.Fills after g := by
  induction h with
  | nil => exact .nil
  | space hc _ ih => exact .space hc ih
  | @comment body g hbody _ ih =>
      refine .comment hbody (fun c hc => ?_) (.space rfl ih)
      exact (Option.mem_some.1 hc).symm

/-- White space either stays on its line or ends it. -/
theorem isSpace_sameLine_or {c : Char} (h : Gap.anyLine.isSpace c = true) :
    Gap.sameLine.isSpace c = true ∨ c = '\r' ∨ c = '\n' := by
  simp only [Gap.isSpace, Bool.or_eq_true, beq_iff_eq] at h ⊢
  tauto

/-- A gap in which no line ends has no comments. -/
theorem Spacing.inline {g : Text} (h : Spacing g) (hline : ¬ BreaksLine g) : Inline g := by
  induction h with
  | nil => exact fun _ hc => nomatch hc
  | @space c g hc _ ih =>
      have hg : ¬ BreaksLine g := fun ⟨d, hd, hbreak⟩ =>
        hline ⟨d, List.mem_cons_of_mem _ hd, hbreak⟩
      have hsame : Gap.sameLine.isSpace c = true :=
        (isSpace_sameLine_or hc).resolve_right fun hbreak =>
          hline ⟨c, List.mem_cons_self, hbreak⟩
      exact List.forall_mem_cons.2 ⟨hsame, ih hg⟩
  | comment _ _ _ => exact absurd ⟨'\n', by simp, .inr rfl⟩ hline

/-- Where a line ends in a gap, nothing but spaces and a comment stands before its end. -/
theorem Spacing.endsLine {g : Text} (h : Spacing g) (hline : BreaksLine g) (after : Text) :
    Text.EndsLine (g ++ after) := by
  induction h with
  | nil =>
      obtain ⟨c, hc, -⟩ := hline
      cases hc
  | @space c g hc _ ih =>
      by_cases hsame : Gap.sameLine.isSpace c = true
      · have hg : BreaksLine g := by
          obtain ⟨d, hd, hbreak⟩ := hline
          rcases List.mem_cons.1 hd with rfl | hd
          · rcases hbreak with rfl | rfl <;> cases hsame
          · exact ⟨d, hd, hbreak⟩
        obtain ⟨lead, rest, heq, hfill, hrest⟩ := ih hg
        exact ⟨c :: lead, rest, by rw [List.cons_append, heq, List.cons_append],
          .space hsame hfill, hrest⟩
      · refine ⟨[], c :: (g ++ after), rfl, .nil, fun d hd => ?_⟩
        obtain rfl := Option.mem_some.1 hd
        exact (isSpace_sameLine_or hc).resolve_left hsame
  | @comment body g hbody _ _ =>
      -- The line ends behind the comment, whatever was meant.
      have hend : ∀ d ∈ ('\n' :: (g ++ after)).head?, d = '\n' := fun d hd =>
        (Option.mem_some.1 hd).symm
      refine ⟨'#' :: (body ++ []), '\n' :: (g ++ after), ?_, .comment hbody hend .nil, ?_⟩
      · simp only [List.append_nil, List.cons_append, List.append_assoc]
      · exact fun d hd => .inr (hend d hd)

namespace Text

/-- What stands behind the longest gap on the line decides whether a sign comes next. -/
theorem noSign_of_fills {g rest : Text} (hfill : Gap.sameLine.Fills rest g)
    (hopen : Gap.sameLine.opens rest = false) (hsign : ∀ d ∈ rest.head?, d ≠ '+' ∧ d ≠ '-') :
    NoSign (g ++ rest) := by
  intro g' rest' heq hfill' d hd
  by_contra hcontra
  have hor : d = '+' ∨ d = '-' := by tauto
  have hopen' : Gap.sameLine.opens rest' = false := by
    obtain ⟨more, rfl⟩ := List.head?_eq_some_iff.1 hd
    rcases hor with rfl | rfl <;> rfl
  -- Both are the gap that is read at the front of the text.
  have hg : g = g' := by
    rw [← Gap.lead_append hfill hopen, heq, Gap.lead_append hfill' hopen']
  obtain rfl : rest = rest' := by
    rw [hg] at heq
    exact List.append_cancel_left heq
  exact hcontra (hsign d hd)

theorem EndsLine.noSign {t : Text} (h : EndsLine t) : NoSign t := by
  obtain ⟨g, rest, rfl, hfill, hrest⟩ := h
  refine noSign_of_fills hfill ?_ fun d hd => ?_
  · cases rest with
    | nil => rfl
    | cons d rest => rcases hrest d rfl with rfl | rfl <;> rfl
  · rcases hrest d hd with rfl | rfl <;> exact ⟨by decide, by decide⟩

end Text

/-! ### Gaps between tokens -/

namespace Tree

/-- The token can be the last one of an expression. -/
def Token.EndsPiece : Token → Prop
  | .string _ => True
  | .reference _ => True
  | _ => False

/-- The gap `g` may stand between the token `before` and the token `after`, which is written as `s`.
One of the two is missing where the text begins or ends. -/
structure Token.Apart (before after : Option Token) (s g : Text) : Prop where
  spacing : Spacing g
  /-- White space keeps neighbours apart; only a colon may touch its key. -/
  starts : ∀ t ∈ before, (∃ c ∈ g.head?, Gap.anyLine.isSpace c = true) ∨
    g = [] ∧ (after = none ∨ (∃ k, t = .key k) ∧ after = some (.mark ':'))
  /-- A colon, a sign and a word of a shell line stay on the line. -/
  sameLine : ∀ u ∈ after, u.gap = .sameLine → Inline g
  /-- A shell line ends with its line. -/
  shellLine : ∀ v, before = some (.shellWord v) → (∀ w, after ≠ some (.shellWord w)) → BreaksLine g
  /-- What begins like a sign and is none stands on a line behind the expression. -/
  sign : ∀ t ∈ before, t.EndsPiece → after ≠ some (.mark '+') → after ≠ some (.mark '-') →
    s.head? = some '+' ∨ s.head? = some '-' → BreaksLine g

end Tree

/-- Behind the token `before`, the text consists of the tokens, with gaps that keep them apart. -/
inductive Spaced : Option Token → List Token → Text → Prop
  | finish {before : Option Token} {g : Text} : Token.Apart before none [] g → Spaced before [] g
  | token {before : Option Token} {g s rest : Text} {token : Token} {more : List Token} :
      token.Spelled s → Token.Apart before (some token) s g → Spaced (some token) more rest →
      Spaced before (token :: more) (g ++ (s ++ rest))

namespace Tree.Token.Apart

variable {before after : Option Token} {s : Text}

/-- The text may begin with a token at once. -/
theorem start : Apart none after s [] :=
  ⟨.nil, nofun, fun _ _ _ _ hc => (nomatch hc), nofun, nofun⟩

/-- The text may end with a token, unless a shell line has to end. -/
theorem finish (hbefore : ∀ v, before ≠ some (.shellWord v)) : Apart before none [] [] :=
  ⟨.nil, fun _ _ => .inr ⟨rfl, .inl rfl⟩, nofun, fun v hv => absurd hv (hbefore v),
    fun _ _ _ _ _ hhead => by rcases hhead with h | h <;> cases h⟩

/-- A colon may touch its key. -/
theorem colon (k : Text) : Apart (some (.key k)) (some (.mark ':')) [':'] [] :=
  ⟨.nil, fun _ ht => .inr ⟨rfl, .inr ⟨⟨k, (Option.some.inj ht).symm⟩, rfl⟩⟩,
    fun _ _ _ _ hc => (nomatch hc), nofun,
    fun _ _ _ _ _ hhead => by rcases hhead with h | h <;> cases h⟩

/-- One space is enough, unless a line has to end. -/
theorem space (hbefore : ∀ v, before ≠ some (.shellWord v))
    (hsign : ∀ t ∈ before, t.EndsPiece → s.head? ≠ some '+' ∧ s.head? ≠ some '-') :
    Apart before after s [' '] := by
  refine ⟨.space rfl .nil, fun _ _ => .inl ⟨' ', rfl, rfl⟩, fun _ _ _ c hc => ?_,
    fun v hv => absurd hv (hbefore v), fun t ht hpiece _ _ hhead => ?_⟩
  · rw [List.mem_singleton.1 hc]
    rfl
  · exact absurd hhead (not_or.2 (hsign t ht hpiece))

/-- A line may end, behind a comment, in front of every token that need not stay on it. -/
theorem comment (body : Text) (hbody : '\n' ∉ body) (h : ∀ u ∈ after, u.gap = .anyLine) :
    Apart before after s (' ' :: '#' :: (body ++ ['\n'])) := by
  have hbreak : BreaksLine (' ' :: '#' :: (body ++ ['\n'])) := ⟨'\n', by simp, .inr rfl⟩
  refine ⟨.space rfl (.comment hbody .nil), fun _ _ => .inl ⟨' ', rfl, rfl⟩, fun u hu hgap => ?_,
    fun _ _ _ => hbreak, fun _ _ _ _ _ _ => hbreak⟩
  rw [h u hu] at hgap
  cases hgap

end Tree.Token.Apart

/-! ### The tokens of a tree -/

namespace Tree

/-- None of the leaves begins like a gap. -/
def AllSolid (leaves : List Leaf) : Prop := ∀ leaf ∈ leaves, leaf.token.Solid

theorem allSolid_nil : AllSolid [] := fun _ hl => nomatch hl

theorem allSolid_cons {leaf : Leaf} {leaves : List Leaf} :
    AllSolid (leaf :: leaves) ↔ leaf.token.Solid ∧ AllSolid leaves := List.forall_mem_cons

theorem allSolid_append {leaves more : List Leaf} :
    AllSolid (leaves ++ more) ↔ AllSolid leaves ∧ AllSolid more := List.forall_mem_append

theorem allSolid_flatMap {α : Type} {f : α → List Leaf} {l : List α}
    (h : ∀ a ∈ l, AllSolid (f a)) : AllSolid (l.flatMap f) := by
  intro leaf hl
  obtain ⟨a, ha, hl⟩ := List.mem_flatMap.1 hl
  exact h a ha leaf hl

theorem allSolid_listed {items : List (List Leaf)} (h : ∀ item ∈ items, AllSolid item) :
    AllSolid (listed items) := by
  cases items with
  | nil => exact allSolid_nil
  | cons first more =>
      obtain ⟨hfirst, hmore⟩ := List.forall_mem_cons.1 h
      exact allSolid_append.2 ⟨hfirst, allSolid_flatMap fun item hitem =>
        allSolid_cons.2 ⟨rfl, hmore item hitem⟩⟩

theorem Token.solid_word {w : Text} (h : IsName w) : (word w).Solid := h

theorem Piece.solid_leaf (p : Piece) : p.leaf.token.Solid := by
  cases p <;> trivial

theorem Expression.allSolid_leaves (e : Expression) : AllSolid e.leaves := by
  refine allSolid_cons.2 ⟨e.head.solid_leaf, allSolid_flatMap fun p _ => ?_⟩
  exact allSolid_cons.2 ⟨rfl, allSolid_cons.2 ⟨p.solid_leaf, allSolid_nil⟩⟩

theorem QuickCommand.allSolid_leaves (q : QuickCommand) : AllSolid q.leaves := by
  refine allSolid_append.2 ⟨allSolid_append.2 ⟨?_, ?_⟩, q.expr.allSolid_leaves⟩
  · cases q.name with
    | none => exact allSolid_nil
    | some name => exact allSolid_cons.2 ⟨trivial, allSolid_cons.2 ⟨rfl, allSolid_nil⟩⟩
  · cases q.togglesEcho with
    | true => exact allSolid_cons.2 ⟨rfl, allSolid_nil⟩
    | false => exact allSolid_nil

theorem Variable.allSolid_leaves (v : Variable) : AllSolid v.leaves := by
  refine allSolid_cons.2 ⟨trivial, ?_⟩
  cases v.default with
  | none => exact allSolid_nil
  | some value => exact allSolid_cons.2 ⟨rfl, allSolid_cons.2 ⟨trivial, allSolid_nil⟩⟩

theorem ShellLine.allSolid_leaves (l : ShellLine) : AllSolid l.leaves := by
  refine allSolid_cons.2 ⟨Token.solid_word (by decide), fun leaf hl => ?_⟩
  obtain ⟨w, -, rfl⟩ := List.mem_map.1 hl
  trivial

theorem Clause.allSolid_leaves (cl : Clause) : AllSolid cl.leaves := by
  cases cl with
  | set names =>
      refine allSolid_cons.2 ⟨Token.solid_word (by decide), allSolid_listed fun item hitem => ?_⟩
      obtain ⟨s, -, rfl⟩ := List.mem_map.1 hitem
      exact allSolid_cons.2 ⟨trivial, allSolid_nil⟩
  | vars vs =>
      refine allSolid_cons.2 ⟨Token.solid_word (by decide), allSolid_listed fun item hitem => ?_⟩
      obtain ⟨v, -, rfl⟩ := List.mem_map.1 hitem
      exact v.allSolid_leaves
  | shell line => exact line.allSolid_leaves

theorem EntryValue.allSolid_leaves (v : EntryValue) : AllSolid v.leaves := by
  cases v with
  | menu name => exact allSolid_cons.2 ⟨trivial, allSolid_nil⟩
  | quick q => exact q.allSolid_leaves
  | block b =>
      refine allSolid_cons.2 ⟨Token.solid_word (by decide), allSolid_cons.2 ⟨rfl, ?_⟩⟩
      refine allSolid_append.2 ⟨?_, ?_⟩
      · exact allSolid_flatMap fun cl _ => cl.allSolid_leaves
      · exact allSolid_append.2 ⟨b.command.allSolid_leaves, allSolid_cons.2 ⟨rfl, allSolid_nil⟩⟩

theorem Entry.allSolid_leaves (e : Entry) : AllSolid e.leaves :=
  allSolid_cons.2 ⟨trivial, allSolid_cons.2 ⟨rfl, e.value.allSolid_leaves⟩⟩

theorem Menu.allSolid_leaves (m : Menu) : AllSolid m.leaves := by
  have hentries : AllSolid (m.entries.flatMap Entry.leaves) :=
    allSolid_flatMap fun e _ => e.allSolid_leaves
  refine allSolid_append.2 ⟨allSolid_cons.2 ⟨Token.solid_word (by decide), ?_⟩, ?_⟩
  · cases m.title with
    | none => exact allSolid_nil
    | some title => exact allSolid_cons.2 ⟨trivial, allSolid_nil⟩
  · refine allSolid_cons.2 ⟨trivial, allSolid_cons.2 ⟨rfl, allSolid_append.2 ⟨hentries, ?_⟩⟩⟩
    exact allSolid_cons.2 ⟨rfl, allSolid_nil⟩

theorem Item.allSolid_leaves (i : Item) : AllSolid i.leaves := by
  cases i with
  | menu m => exact m.allSolid_leaves
  | snippet s =>
      refine allSolid_cons.2 ⟨Token.solid_word (by decide), allSolid_cons.2 ⟨trivial, ?_⟩⟩
      exact allSolid_cons.2 ⟨rfl, s.expr.allSolid_leaves⟩

theorem Setting.allSolid_leaves (s : Setting) : AllSolid s.leaves := by
  cases s with
  | shell line => exact line.allSolid_leaves
  | echo on pos =>
      refine allSolid_cons.2 ⟨Token.solid_word (by decide), allSolid_cons.2 ⟨?_, allSolid_nil⟩⟩
      cases on <;> exact Token.solid_word (by decide)

/-- No token of a tree begins like a gap. -/
theorem File.solid_of_mem (f : File) : ∀ t ∈ tokens f.leaves, t.Solid := by
  refine List.forall_mem_map.2 (allSolid_append.2 ⟨?_, ?_⟩)
  · exact allSolid_flatMap fun s _ => s.allSolid_leaves
  · exact allSolid_flatMap fun i _ => i.allSolid_leaves

end Tree

/-! ### Tokens that are kept apart end where they should -/

namespace Spaced

variable {before : Option Token} {token : Token} {toks : List Token} {s text : Text}

/-- Behind a token there is white space, or nothing at all, or the colon of a key. -/
theorem head?_space (h : Spaced (some token) toks text) :
    ∀ d ∈ text.head?, Gap.anyLine.isSpace d = true ∨ (∃ k, token = .key k) ∧ d = ':' := by
  intro d hd
  cases h with
  | finish hapart =>
      rcases hapart.starts token rfl with ⟨c, hc, hspace⟩ | ⟨rfl, -⟩
      · exact .inl (Option.mem_unique hc hd ▸ hspace)
      · cases hd
  | token hs hapart _ =>
      rcases hapart.starts token rfl with ⟨c, hc, hspace⟩ | ⟨rfl, hnone | ⟨hkey, hcolon⟩⟩
      · obtain ⟨g, rfl⟩ := List.head?_eq_some_iff.1 hc
        obtain rfl := Option.some.inj hd
        exact .inl hspace
      · cases hnone
      · cases hcolon
        obtain rfl := hs
        exact .inr ⟨hkey, (Option.some.inj hd).symm⟩

/-- Behind the last word of a shell line the line ends. -/
theorem endsLine (h : Spaced (some token) toks text) {v : Text} (hv : token = .shellWord v) :
    (∃ w, toks.head? = some (.shellWord w)) ∨ text.EndsLine := by
  by_contra hcontra
  obtain ⟨hnext, hline⟩ := not_or.1 hcontra
  rw [not_exists] at hnext
  cases h with
  | finish hapart =>
      have hbreak := hapart.shellLine v (congrArg some hv) fun _ => nofun
      refine hline ?_
      rw [← List.append_nil text]
      exact hapart.spacing.endsLine hbreak []
  | token _ hapart _ =>
      have hbreak := hapart.shellLine v (congrArg some hv) hnext
      exact hline (hapart.spacing.endsLine hbreak _)

/-- Behind an expression, only a sign that belongs to it comes next on the line. -/
theorem signAllowed (h : Spaced (some token) toks text) (hsolid : ∀ u ∈ toks.head?, u.Solid)
    (htoken : token.EndsPiece) : SignAllowed toks.head? text := by
  by_cases hplus : toks.head? = some (.mark '+')
  · exact .inl hplus
  by_cases hminus : toks.head? = some (.mark '-')
  · exact .inr (.inl hminus)
  refine .inr (.inr ?_)
  cases h with
  | finish hapart =>
      rw [← List.append_nil text]
      by_cases hbreak : BreaksLine text
      · exact (hapart.spacing.endsLine hbreak []).noSign
      · have hfill := (hapart.spacing.inline hbreak).fills []
        exact Text.noSign_of_fills hfill rfl fun _ hd => nomatch hd
  | @token _ g s rest u more hs hapart _ =>
      by_cases hbreak : BreaksLine g
      · exact (hapart.spacing.endsLine hbreak _).noSign
      · -- Without a line end the gap is one of spaces, behind which no sign may stand.
        have hfill := (hapart.spacing.inline hbreak).fills (s ++ rest)
        obtain ⟨d, s, rfl, hopen⟩ := (hsolid u rfl).exists_head hs
        refine Text.noSign_of_fills hfill ?_ fun e he => ?_
        · rw [Gap.opens_cons, Bool.or_eq_false_iff] at hopen
          rw [List.cons_append, Gap.opens_cons, Bool.or_eq_false_iff]
          refine ⟨Bool.eq_false_iff.2 fun hspace => ?_, hopen.2⟩
          rw [Gap.isSpace_anyLine_of_isSpace hspace] at hopen
          cases hopen.1
        · have hsign := fun hd => hbreak (hapart.sign token rfl htoken hplus hminus hd)
          obtain rfl := Option.some.inj he
          exact ⟨fun hd => hsign (.inl (by rw [hd, List.head?_cons])),
            fun hd => hsign (.inr (by rw [hd, List.head?_cons]))⟩

/-- A token ends in front of what is kept apart from it. -/
theorem ends (h : Spaced (some token) toks text) (hsolid : ∀ u ∈ toks.head?, u.Solid) :
    token.Ends s toks.head? text := by
  have hsymbol : ∀ d ∈ text.head?, isSymbolChar d = false := fun d hd => by
    rcases h.head?_space d hd with hspace | ⟨-, rfl⟩
    · exact isSymbolChar_of_isSpace hspace
    · rfl
  have hblank (hkey : ∀ k, token ≠ .key k) : ∀ d ∈ text.head?, isBlank d = true := fun d hd => by
    rcases h.head?_space d hd with hspace | ⟨⟨k, hk⟩, -⟩
    · exact Gap.isBlank_of_isSpace hspace
    · exact absurd hk (hkey k)
  cases token with
  | word w => exact hsymbol
  | name n => exact hsymbol
  | key k =>
      intro d hd
      rcases h.head?_space d hd with hspace | ⟨-, rfl⟩
      · simp [isKeyChar, Gap.isBlank_of_isSpace hspace]
      · rfl
  | reference n => exact ⟨hsymbol, h.signAllowed hsolid trivial⟩
  | string v => exact h.signAllowed hsolid trivial
  | mark c => exact fun _ => hblank fun _ => Tree.Token.noConfusion
  | shellWord v => exact ⟨.inr (hblank fun _ => Tree.Token.noConfusion), h.endsLine rfl⟩

/-- Tokens that are kept apart can be told apart. -/
theorem layout (h : Spaced before toks text) (hsolid : ∀ t ∈ toks, t.Solid) :
    Layout toks text := by
  induction h with
  | finish hapart => exact .finish (hapart.spacing.fills [])
  | @token before g s rest token more hs hapart hrest ih =>
      have hmore : ∀ t ∈ more, t.Solid := fun t ht => hsolid t (List.mem_cons_of_mem _ ht)
      have hends := hrest.ends (s := s) fun u hu => hmore u (List.mem_of_mem_head? hu)
      refine .token ?_ hs hends (ih hmore)
      cases hgap : token.gap with
      | anyLine => exact hapart.spacing.fills _
      | sameLine => exact (hapart.sameLine token rfl hgap).fills _

end Spaced

/-- **Every tree that follows the grammar is read from every text in which its tokens are kept
apart**, up to positions. The text spells names and keys as they are, so that there is one only
where they can be written. -/
theorem Tree.File.parse_of_spaced {f : File} {text : Text} (hproper : f.Proper)
    (h : Spaced none (tokens f.leaves) text) :
    ∃ f', parse text = .ok f' ∧ f'.unplaced = f.unplaced :=
  parse_of_layout hproper (h.layout f.solid_of_mem)

/-- Keys that look like signs, one of them behind an expression and a comment, and a menu that is
called like a block. -/
theorem Tree.File.parse_of_spaced_sign :
    ∃ f : File, f.Proper ∧
      Spaced none (tokens f.leaves) "menu root \x7b -: $s #:\n+ : cmd \x7d".toList ∧
      ∃ f', parse "menu root \x7b -: $s #:\n+ : cmd \x7d".toList = .ok f' ∧
        f'.unplaced = f.unplaced := by
  let quick : Tree.Entry :=
    ⟨['-'], .quick ⟨⟨.reference ['s'] .start, []⟩, none, false⟩, .start⟩
  let sub : Tree.Entry := ⟨['+'], .menu ⟨"cmd".toList, .start⟩, .start⟩
  let f : File := ⟨[], [.menu ⟨"root".toList, none, [quick, sub], .start⟩]⟩
  have hproper : f.Proper := by
    refine ⟨nofun, fun i hi => ?_⟩
    obtain rfl := List.mem_singleton.1 hi
    refine ⟨nofun, .cons_cons (fun _ hs => nomatch hs) (.singleton _), fun e he => ?_⟩
    simp only [List.mem_cons, List.not_mem_nil, or_false] at he
    rcases he with rfl | rfl <;> trivial
  have hkey (c : Char) (hc : isKeyChar c = true ∧ c ≠ '#') : IsKey [c] :=
    ⟨nofun, List.forall_mem_singleton.2 hc.1, fun h => hc.2 (Option.some.inj h)⟩
  have hspaced : Spaced none (tokens f.leaves) "menu root \x7b -: $s #:\n+ : cmd \x7d".toList :=
    .token (g := []) (s := "menu".toList) rfl .start <|
    .token (g := [' ']) (s := "root".toList) ⟨by decide, rfl⟩ (.space nofun nofun) <|
    .token (g := [' ']) (s := ['\x7b']) rfl (.space nofun nofun) <|
    .token (g := [' ']) (s := ['-']) ⟨hkey '-' (by decide), rfl⟩ (.space nofun nofun) <|
    .token (g := []) (s := [':']) rfl (.colon _) <|
    .token (g := [' ']) (s := "$s".toList) ⟨by decide, rfl⟩ (.space nofun nofun) <|
    .token (g := " #:\n".toList) (s := ['+']) ⟨hkey '+' (by decide), rfl⟩
      (.comment [':'] (by decide) fun _ hu => Option.some.inj hu ▸ rfl) <|
    .token (g := [' ']) (s := [':']) rfl (.space nofun nofun) <|
    .token (g := [' ']) (s := "cmd".toList) ⟨by decide, rfl⟩ (.space nofun nofun) <|
    .token (g := [' ']) (s := ['\x7d']) rfl (.space nofun nofun) <|
    .finish (.finish nofun)
  exact ⟨f, hproper, hspaced, parse_of_spaced hproper hspaced⟩

end KeyMenu
