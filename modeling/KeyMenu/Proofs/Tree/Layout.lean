import KeyMenu.Proofs.Tree.Token

/-!
# Layouts of tokens

How the tokens of a tree may be put on paper so that they can be told apart again.

* `Token.Ends`: what may stand behind a token, so that it ends where it should;
* `Layout toks t`: the text consists of the tokens, with gaps around them;
* for each token rule, what it does in front of a layout: it finds the token that comes first, or it
  does not begin.
-/

namespace KeyMenu

open Tree

/-! ### Ends of lines and of expressions -/

namespace Text

/-- The text is at the end of its line: spaces and a comment at most stand before a line end. -/
def EndsLine (t : Text) : Prop :=
  ∃ g rest, t = g ++ rest ∧ Gap.sameLine.Fills rest g ∧ ∀ d ∈ rest.head?, d = '\r' ∨ d = '\n'

/-- No plus and no minus sign comes next on the line. -/
def NoSign (t : Text) : Prop :=
  ∀ g rest, t = g ++ rest → Gap.sameLine.Fills rest g → ∀ d ∈ rest.head?, d ≠ '+' ∧ d ≠ '-'

theorem endsLine_newline (t : Text) : EndsLine ('\n' :: t) :=
  ⟨[], _, rfl, .nil, fun _ hd => .inr (Option.mem_some.1 hd).symm⟩

/-- Where a token begins that is no sign, no sign comes next. -/
theorem noSign_cons {c : Char} (t : Text) (hopen : Gap.sameLine.opens [c] = false)
    (hc : c ≠ '+' ∧ c ≠ '-') : NoSign (c :: t) := by
  intro g rest heq hfill d hd
  cases g with
  | nil =>
      rw [List.nil_append] at heq
      rw [← heq] at hd
      exact Option.mem_some.1 hd ▸ hc
  | cons e g =>
      rw [List.cons_append, List.cons.injEq] at heq
      have := hfill.opens (List.cons_ne_nil e g)
      rw [Gap.opens_cons, ← heq.1] at this
      rw [Gap.opens_cons, this] at hopen
      cases hopen

theorem noSign_newline (t : Text) : NoSign ('\n' :: t) := noSign_cons t (by decide) (by decide)

theorem noSign_space {t : Text} (h : NoSign t) : NoSign (' ' :: t) := by
  intro g rest heq hfill d hd
  cases hfill with
  | nil =>
      rw [List.nil_append] at heq
      rw [← heq] at hd
      exact Option.mem_some.1 hd ▸ by decide
  | space _ hfill =>
      rw [List.cons_append, List.cons.injEq] at heq
      exact h _ _ heq.2 hfill d hd
  | comment _ _ _ =>
      rw [List.cons_append, List.cons.injEq] at heq
      exact absurd heq.1 (by decide)

/-- A name is no sign. -/
theorem noSign_name {n : Text} (hn : IsName n) (t : Text) : NoSign (n ++ t) := by
  obtain ⟨d, n, rfl⟩ := List.exists_cons_of_ne_nil hn.1
  have hd : isSymbolChar d = true := hn.2 d (by simp)
  refine noSign_cons (n ++ t) (Bool.eq_false_iff.2 fun h => ?_) ⟨?_, ?_⟩
  · simp only [Gap.opens_cons, Gap.isSpace, Bool.or_eq_true, beq_iff_eq] at h
    rcases h with (rfl | rfl) | rfl <;> exact absurd hd (by decide)
  all_goals
    rintro rfl
    exact absurd hd (by decide)

end Text

/-! ### Layouts -/

namespace Tree

/-- A text behind a string or a reference, in front of the token `next`: only a sign that comes next
can be taken for one. -/
def SignAllowed (next : Option Token) (after : Text) : Prop :=
  next = some (.mark '+') ∨ next = some (.mark '-') ∨ after.NoSign

namespace Token

/-- The token, written as `s`, ends in front of `after`, where the token `next` comes next. Names do
not go on, nothing sticks to a closing brace, and a shell line ends with its line. -/
def Ends : Token → Text → Option Token → Text → Prop
  | word _, _, _, after => ∀ d ∈ after.head?, isSymbolChar d = false
  | name _, _, _, after => ∀ d ∈ after.head?, isSymbolChar d = false
  | key _, _, _, after => ∀ d ∈ after.head?, isKeyChar d = false
  | reference _, _, next, after =>
      (∀ d ∈ after.head?, isSymbolChar d = false) ∧ SignAllowed next after
  | string _, _, next, after => SignAllowed next after
  | shellWord v, s, next, after =>
      (Text.Spells v s ∨ ∀ d ∈ after.head?, isBlank d = true) ∧
        ((∃ w, next = some (.shellWord w)) ∨ after.EndsLine)
  | mark c, _, _, after => c = '\x7d' → ∀ d ∈ after.head?, isBlank d = true

/-- The token does not begin like a gap. -/
def Solid : Token → Prop
  | word w => IsName w
  | mark c => Gap.anyLine.opens [c] = false
  | _ => True

/-- The first code points that the token can have. -/
def MayBegin : Token → Char → Prop
  | word w, d => w.head? = some d
  | mark c, d => d = c
  | name _, d => isSymbolChar d = true
  | key k, d => k.head? = some d
  | string _, d => d = '"' ∨ d = '!'
  | reference _, d => d = '$'
  | shellWord _, _ => True

end Token

/-- The tokens of leaves. -/
def tokens (leaves : List Leaf) : List Token := leaves.map Leaf.token

@[simp] theorem tokens_nil : tokens [] = [] := rfl

@[simp] theorem tokens_cons (token : Token) (pos : Option Position) (leaves : List Leaf) :
    tokens (⟨token, pos⟩ :: leaves) = token :: tokens leaves := rfl

@[simp] theorem tokens_append (leaves more : List Leaf) :
    tokens (leaves ++ more) = tokens leaves ++ tokens more := List.map_append

@[simp] theorem tokens_flatMap {α : Type} (f : α → List Leaf) (l : List α) :
    tokens (l.flatMap f) = l.flatMap fun a => tokens (f a) := List.map_flatMap

end Tree

/-- The text consists of the tokens, with gaps around them. -/
inductive Layout : List Token → Text → Prop
  | finish {g : Text} : Gap.anyLine.Fills [] g → Layout [] g
  | token {g s rest : Text} {token : Token} {more : List Token} :
      token.gap.Fills (s ++ rest) g → token.Spelled s → token.Ends s more.head? rest →
      Layout more rest → Layout (token :: more) (g ++ (s ++ rest))

namespace Layout

/-- A token without a gap in front of it. -/
theorem direct {token : Token} {more : List Token} {s rest : Text} (hs : token.Spelled s)
    (hend : token.Ends s more.head? rest) (h : Layout more rest) :
    Layout (token :: more) (s ++ rest) := .token (g := []) .nil hs hend h

/-- A mark without a gap in front of it. -/
theorem cons_mark {x : Char} {more : List Token} {rest : Text}
    (hx : x = '\x7d' → ∀ d ∈ rest.head?, isBlank d = true) (h : Layout more rest) :
    Layout (.mark x :: more) (x :: rest) := .token (g := []) (s := [x]) .nil rfl hx h

theorem cons_word {w : Text} {more : List Token} {rest : Text}
    (hend : ∀ d ∈ rest.head?, isSymbolChar d = false) (h : Layout more rest) :
    Layout (.word w :: more) (w ++ rest) := .token (g := []) .nil rfl hend h

theorem cons_name {n : Text} {more : List Token} {rest : Text} (hn : IsName n)
    (hend : ∀ d ∈ rest.head?, isSymbolChar d = false) (h : Layout more rest) :
    Layout (.name n :: more) (n ++ rest) := .token (g := []) .nil ⟨hn, rfl⟩ hend h

theorem cons_string {v : Text} {more : List Token} {rest : Text}
    (hsign : SignAllowed more.head? rest) (h : Layout more rest) :
    Layout (.string v :: more) (v.spelling ++ rest) :=
  .token (g := []) .nil (Text.spells_spelling v) hsign h

/-- A space in front of a layout. -/
theorem space {toks : List Token} {t : Text} {c : Char} (h : Layout toks t)
    (hc : Gap.sameLine.isSpace c = true ∨
      Gap.anyLine.isSpace c = true ∧ ∀ token ∈ toks.head?, token.gap = .anyLine) :
    Layout toks (c :: t) := by
  cases h with
  | finish hg => exact .finish (.space (hc.elim Gap.isSpace_anyLine_of_isSpace And.left) hg)
  | @token g s rest token more hg hs hend h =>
      refine .token (g := c :: g) (.space ?_ hg) hs hend h
      rcases hc with hc | ⟨hc, htok⟩
      · cases hgap : token.gap with
        | anyLine => exact Gap.isSpace_anyLine_of_isSpace hc
        | sameLine => exact hc
      · rw [htok token rfl]
        exact hc

/-- Spaces in front of a layout. -/
theorem spaces {toks : List Token} {g t : Text} (h : Layout toks t)
    (hg : ∀ c ∈ g, Gap.sameLine.isSpace c = true ∨
      Gap.anyLine.isSpace c = true ∧ ∀ token ∈ toks.head?, token.gap = .anyLine) :
    Layout toks (g ++ t) := by
  induction g with
  | nil => exact h
  | cons c g ih =>
      obtain ⟨hc, hg⟩ := List.forall_mem_cons.1 hg
      exact (ih hg).space hc

end Layout

/-! ### The first token -/

namespace Tree.Token

variable {token : Token} {s : Text}

theorem MayBegin.of_spelled (hs : token.Spelled s) {d : Char} (hd : s.head? = some d) :
    token.MayBegin d := by
  cases token with
  | word w =>
      obtain rfl := hs
      exact hd
  | mark c =>
      obtain rfl := hs
      exact (Option.some.inj hd).symm
  | name n =>
      obtain ⟨hname, rfl⟩ := hs
      exact hname.2 d (List.mem_of_mem_head? hd)
  | key k =>
      obtain ⟨-, rfl⟩ := hs
      exact hd
  | string v =>
      rcases hs with ⟨-, rfl⟩ | ⟨marker, -, -, rfl⟩
      · exact .inl (Option.some.inj hd).symm
      · exact .inr (Option.some.inj hd).symm
  | reference n =>
      obtain ⟨-, rfl⟩ := hs
      exact (Option.some.inj hd).symm
  | shellWord v => trivial

theorem opens_eq_false_of_isBlank {d : Char} (hblank : isBlank d = false) (hhash : d ≠ '#') :
    Gap.anyLine.opens [d] = false := by
  rw [Gap.opens_cons, Bool.or_eq_false_iff]
  refine ⟨Bool.eq_false_iff.2 fun h => ?_, by simpa using hhash⟩
  rw [Gap.isBlank_of_isSpace h] at hblank
  cases hblank

theorem exists_head_of_isName {n : Text} (hn : IsName n) :
    ∃ d t, n = d :: t ∧ Gap.anyLine.opens [d] = false := by
  obtain ⟨d, t, rfl⟩ := List.exists_cons_of_ne_nil hn.1
  have hd : isSymbolChar d = true := hn.2 d (by simp)
  refine ⟨d, t, rfl, Bool.eq_false_iff.2 fun h => ?_⟩
  simp only [Gap.opens_cons, Gap.isSpace, Bool.or_eq_true, beq_iff_eq] at h
  rcases h with (((rfl | rfl) | rfl) | rfl) | rfl <;> exact absurd hd (by decide)

/-- Nothing that is written for a token is empty or begins like a gap. -/
theorem Solid.exists_head (hsolid : token.Solid) (hs : token.Spelled s) :
    ∃ d t, s = d :: t ∧ Gap.anyLine.opens [d] = false := by
  cases token with
  | word w =>
      obtain rfl := hs
      exact exists_head_of_isName hsolid
  | mark c =>
      obtain rfl := hs
      exact ⟨c, [], rfl, hsolid⟩
  | name n =>
      obtain ⟨hn, rfl⟩ := hs
      exact exists_head_of_isName hn
  | key k =>
      obtain ⟨⟨hne, hk, hhash⟩, rfl⟩ := hs
      obtain ⟨d, t, rfl⟩ := List.exists_cons_of_ne_nil hne
      have hd := hk d (by simp)
      simp only [isKeyChar, Bool.and_eq_true, Bool.not_eq_true'] at hd
      exact ⟨d, t, rfl, opens_eq_false_of_isBlank hd.2 fun h => hhash (by rw [h, List.head?_cons])⟩
  | string v =>
      rcases hs with ⟨-, rfl⟩ | ⟨marker, -, -, rfl⟩
      · exact ⟨_, _, rfl, by decide⟩
      · exact ⟨_, _, rfl, by decide⟩
  | reference n =>
      obtain ⟨-, rfl⟩ := hs
      exact ⟨_, _, rfl, by decide⟩
  | shellWord v =>
      rcases hs with hs | ⟨⟨hne, hblank, hhash, -⟩, rfl⟩
      · rcases hs with ⟨-, rfl⟩ | ⟨marker, -, -, rfl⟩
        · exact ⟨_, _, rfl, by decide⟩
        · exact ⟨_, _, rfl, by decide⟩
      · obtain ⟨d, t, rfl⟩ := List.exists_cons_of_ne_nil hne
        exact ⟨d, t, rfl, opens_eq_false_of_isBlank (hblank d (by simp)) fun h =>
          hhash (by rw [h, List.head?_cons])⟩

end Tree.Token

namespace Layout

variable {token : Token} {toks more : List Token} {c : Cursor}

/-- The first token, behind the gap in front of it. -/
theorem first (h : Layout (token :: more) c.rest) (hsolid : token.Solid) :
    ∃ g s rest, c.Skips .anyLine g (s ++ rest) ∧ c.Skips token.gap g (s ++ rest) ∧
      token.Spelled s ∧ token.Ends s more.head? rest ∧ Layout more rest := by
  generalize hc : c.rest = t at h
  cases h with
  | @token g s rest _ _ hg hs hend h =>
      obtain ⟨d, t, rfl, hopen⟩ := hsolid.exists_head hs
      have hopens (gap : Gap) : gap.opens (d :: t ++ rest) = false := by
        rw [List.cons_append, Gap.opens_cons, Bool.or_eq_false_iff]
        rw [Gap.opens_cons, Bool.or_eq_false_iff] at hopen
        refine ⟨Bool.eq_false_iff.2 fun hspace => ?_, hopen.2⟩
        rw [Gap.isSpace_anyLine_of_isSpace hspace] at hopen
        cases hopen.1
      exact ⟨g, d :: t, rest, ⟨hc, hg.anyLine, hopens _⟩, ⟨hc, hg, hopens _⟩, hs, hend, h⟩

/-- What a layout begins with, behind its gap: nothing, or the first code point of its first
token. -/
theorem exists_skips (h : Layout toks c.rest) (hsolid : ∀ token ∈ toks.head?, token.Solid) :
    ∃ g rest, c.Skips .anyLine g rest ∧
      ∀ d ∈ rest.head?, ∃ token ∈ toks.head?, token.MayBegin d := by
  cases toks with
  | nil =>
      generalize hc : c.rest = t at h
      cases h with
      | finish hg => exact ⟨t, [], ⟨by rw [hc, List.append_nil], hg, rfl⟩, fun _ hd => nomatch hd⟩
  | cons token more =>
      obtain ⟨g, s, rest, hskip, -, hs, -, -⟩ := h.first (hsolid token rfl)
      obtain ⟨d, t, rfl, -⟩ := (hsolid token rfl).exists_head hs
      refine ⟨g, _, hskip, fun e he => ⟨token, rfl, .of_spelled hs ?_⟩⟩
      exact he

end Layout

/-! ### Token rules in front of a layout -/

/-- At the end of a line there are no more words. -/
theorem Text.EndsLine.misses_shellWord {c : Cursor} (h : c.rest.EndsLine) :
    Rule.Misses Rule.shellWord c := by
  obtain ⟨g, rest, heq, hfill, hrest⟩ := h
  have hopen : Gap.sameLine.opens rest = false := by
    cases rest with
    | nil => rfl
    | cons d rest => rcases hrest d rfl with rfl | rfl <;> rfl
  exact (Rule.misses_shellWord ⟨heq, hfill, hopen⟩).2 hrest

namespace Layout

open Rule

variable {toks more : List Token} {c : Cursor} {α : Type}

theorem finds_mark {gap : Gap} {x : Char} (h : Layout (.mark x :: more) c.rest)
    (hgap : (Token.mark x).gap = gap) (hsolid : (Token.mark x).Solid) :
    ∃ next, Finds (mark gap x) c () next ∧ Layout more next.rest := by
  obtain ⟨g, s, rest, -, hskip, rfl, -, h⟩ := h.first hsolid
  rw [hgap] at hskip
  refine ⟨_, (Rule.finds_mark hskip).2 ⟨rest, rfl, rfl⟩, ?_⟩
  rwa [Cursor.rest_past hskip.rest_past]

theorem misses_mark {x : Char} (h : Layout toks c.rest)
    (hhead : ∀ token ∈ toks.head?, token.Solid ∧ ¬ token.MayBegin x) :
    Misses (mark .anyLine x) c := by
  obtain ⟨g, rest, hskip, hrest⟩ := h.exists_skips fun token ht => (hhead token ht).1
  refine (Rule.misses_mark hskip).2 fun hx => ?_
  obtain ⟨token, ht, hbegin⟩ := hrest x hx
  exact (hhead token ht).2 hbegin

/-- Behind a string or a reference a sign is read only where it is the next token. -/
theorem misses_sign {x : Char} (h : Layout toks c.rest) (hsign : SignAllowed toks.head? c.rest)
    (hx : x = '+' ∨ x = '-') (hne : toks.head? ≠ some (.mark x)) :
    Misses (mark .sameLine x) c := by
  -- A sign that comes next as a token is the other one.
  have hother {y : Char} (hy : toks.head? = some (.mark y)) (hgap : (Token.mark y).gap = .sameLine)
      (hsolid : (Token.mark y).Solid) : Misses (mark .sameLine x) c := by
    obtain ⟨more, rfl⟩ := List.head?_eq_some_iff.1 hy
    obtain ⟨g, s, rest, -, hskip, rfl, -, -⟩ := h.first hsolid
    rw [hgap] at hskip
    refine (Rule.misses_mark hskip).2 fun hxy => hne ?_
    rw [hy, Option.some.inj hxy]
  rcases hsign with hplus | hminus | hnone
  · exact hother hplus rfl rfl
  · exact hother hminus rfl rfl
  · obtain ⟨g, rest, hskip⟩ := c.exists_skips .sameLine
    refine (Rule.misses_mark hskip).2 fun hhead => ?_
    have hsigns := hnone g rest hskip.1 hskip.2.1 x hhead
    rcases hx with rfl | rfl
    · exact hsigns.1 rfl
    · exact hsigns.2 rfl

/-! #### Words and names -/

theorem finds_keyword {w : Text} (hw : IsName w) (h : Layout (.word w :: more) c.rest) :
    ∃ next, Finds (keyword w) c () next ∧ Layout more next.rest := by
  obtain ⟨g, s, rest, hskip, -, rfl, hend, h⟩ := h.first hw
  refine ⟨_, (Rule.finds_keyword hskip).2 ⟨rest, rfl, hend, rfl⟩, ?_⟩
  rwa [Cursor.rest_past hskip.rest_past]

/-- A rule that begins with a word begins in front of that word. -/
theorem finds_placed {w : Text} (hw : IsName w) (h : Layout (.word w :: more) c.rest) :
    ∃ pos mid, Layout more mid.rest ∧
      ∀ {α : Type} {f : Position → Rule α} {a next}, Finds (f pos) mid a next →
        Finds (do skip .anyLine; let pos ← here; keyword w; f pos) c a next := by
  obtain ⟨g, s, rest, hskip, -, rfl, hend, h⟩ := h.first hw
  refine ⟨(c.past g).pos, (c.past g).past s, ?_, fun hf => ?_⟩
  · rwa [Cursor.rest_past hskip.rest_past]
  · rw [finds_skip_bind hskip, finds_here_bind]
    exact ((Rule.finds_keyword hskip.again (u := ())).2 ⟨rest, rfl, hend, rfl⟩).bind hf

/-- What is no word at all or a word of its own is not taken for the word `w`. -/
def Unlike (w : Text) (token : Token) : Prop :=
  token.Solid ∧ ((∀ d, token.MayBegin d → isSymbolChar d = false) ∨
    ∃ v, (token = .word v ∨ token = .name v) ∧ v ≠ w)

theorem exists_symbolChar {w : Text} (hw : IsName w) (h : Layout toks c.rest)
    (hhead : ∀ token ∈ toks.head?, Unlike w token) :
    ∃ g rest, c.Skips .anyLine g rest ∧
      ∀ more, rest = w ++ more → ∃ d ∈ more.head?, isSymbolChar d = true := by
  -- A whole word that is written there cannot be cut in two by `w`.
  have hcut {v rest more : Text} (hv : IsName v) (hend : ∀ d ∈ rest.head?, isSymbolChar d = false)
      (hne : v ≠ w) (heq : v ++ rest = w ++ more) : ∃ d ∈ more.head?, isSymbolChar d = true := by
    by_contra hall
    have hmore : ∀ d ∈ more.head?, isSymbolChar d = false := by
      simpa only [not_exists, not_and, Bool.not_eq_true] using hall
    refine hne ?_
    rw [← Text.takeWhile_append_eq hv.2 hend, heq, Text.takeWhile_append_eq hw.2 hmore]
  cases toks with
  | nil =>
      obtain ⟨g, rest, hskip, hrest⟩ := h.exists_skips fun _ ht => nomatch ht
      refine ⟨g, rest, hskip, fun more hmore => ?_⟩
      obtain ⟨d, w', rfl⟩ := List.exists_cons_of_ne_nil hw.1
      obtain ⟨token, ht, -⟩ := hrest d (by rw [hmore]; rfl)
      exact nomatch ht
  | cons token more =>
      obtain ⟨hsolid, hbegin⟩ := hhead token rfl
      obtain ⟨g, s, rest, hskip, -, hs, hend, -⟩ := h.first hsolid
      refine ⟨g, _, hskip, fun more hmore => ?_⟩
      rcases hbegin with hbegin | ⟨v, hv, hne⟩
      · obtain ⟨d, w', rfl⟩ := List.exists_cons_of_ne_nil hw.1
        obtain ⟨e, s', rfl, -⟩ := hsolid.exists_head hs
        obtain ⟨rfl, -⟩ := List.cons_eq_cons.1 hmore
        have := hbegin e (.of_spelled hs rfl)
        rw [hw.2 e (by simp)] at this
        cases this
      · rcases hv with rfl | rfl
        · obtain rfl := hs
          exact hcut hsolid hend hne hmore
        · obtain ⟨hname, rfl⟩ := hs
          exact hcut hname hend hne hmore

theorem misses_keyword {w : Text} (hw : IsName w) (h : Layout toks c.rest)
    (hhead : ∀ token ∈ toks.head?, Unlike w token) : Misses (keyword w) c := by
  obtain ⟨g, rest, hskip, hmore⟩ := h.exists_symbolChar hw hhead
  exact (Rule.misses_keyword hskip).2 hmore

theorem misses_placed {w : Text} (hw : IsName w) (h : Layout toks c.rest)
    (hhead : ∀ token ∈ toks.head?, Unlike w token) {f : Position → Rule α} :
    Misses (do skip .anyLine; let pos ← here; keyword w; f pos) c := by
  obtain ⟨g, rest, hskip, hmore⟩ := h.exists_symbolChar hw hhead
  rw [misses_skip_bind hskip, misses_here_bind]
  exact ((Rule.misses_keyword hskip.again).2 hmore).bind

theorem finds_symbol {n : Text} (what : Text) (h : Layout (.name n :: more) c.rest) :
    ∃ pos next, Finds (symbol what) c ⟨n, pos⟩ next ∧ Layout more next.rest := by
  obtain ⟨g, s, rest, hskip, -, ⟨hn, rfl⟩, hend, h⟩ := h.first trivial
  refine ⟨_, _, (Rule.finds_symbol hskip).2 ⟨rfl, hn, ⟨rest, rfl, hend⟩, rfl⟩, ?_⟩
  rwa [Cursor.rest_past hskip.rest_past]

/-! #### Strings and references -/

theorem finds_string {v : Text} (h : Layout (.string v :: more) c.rest) :
    ∃ pos next, Finds string c (v, pos) next ∧ Layout more next.rest ∧
      SignAllowed more.head? next.rest := by
  obtain ⟨g, s, rest, hskip, -, hs, hend, h⟩ := h.first trivial
  refine ⟨_, _, (Rule.finds_string hskip).2 ⟨rfl, s, rest, hs, rfl, rfl⟩, ?_⟩
  rw [Cursor.rest_past hskip.rest_past]
  exact ⟨h, hend⟩

theorem misses_string (h : Layout toks c.rest)
    (hhead : ∀ token ∈ toks.head?, token.Solid ∧ ¬ token.MayBegin '"' ∧ ¬ token.MayBegin '!') :
    Misses string c := by
  obtain ⟨g, rest, hskip, hrest⟩ := h.exists_skips fun token ht => (hhead token ht).1
  refine (Rule.misses_string hskip).2 ⟨fun hquote => ?_, ?_⟩
  · obtain ⟨token, ht, hbegin⟩ := hrest _ hquote
    exact (hhead token ht).2.1 hbegin
  · by_contra hopen
    obtain ⟨⟨marker, body⟩, hopen⟩ := Option.ne_none_iff_exists'.1 hopen
    obtain ⟨rfl, -⟩ := Text.protectedOpening_eq_some_iff.1 hopen
    obtain ⟨token, ht, hbegin⟩ := hrest '!' rfl
    exact (hhead token ht).2.2 hbegin

theorem finds_reference {n : Text} (h : Layout (.reference n :: more) c.rest) :
    ∃ pos next, Finds (do skip .anyLine; referenceHere) c (.reference n pos) next ∧
      Layout more next.rest ∧ SignAllowed more.head? next.rest := by
  obtain ⟨g, s, rest, hskip, -, ⟨hn, rfl⟩, hend, h⟩ := h.first trivial
  refine ⟨(c.past g).pos, (c.past g).past ('$' :: n), ?_, ?_⟩
  · rw [finds_skip_bind hskip]
    exact finds_referenceHere.2 ⟨n, rest, rfl, hn, hskip.rest_past, hend.1, rfl⟩
  · rw [Cursor.rest_past hskip.rest_past]
    exact ⟨h, hend.2⟩

theorem misses_reference (h : Layout toks c.rest)
    (hhead : ∀ token ∈ toks.head?, token.Solid ∧ ¬ token.MayBegin '$') :
    Misses (do skip .anyLine; referenceHere) c := by
  obtain ⟨g, rest, hskip, hrest⟩ := h.exists_skips fun token ht => (hhead token ht).1
  rw [misses_skip_bind hskip, misses_referenceHere, hskip.rest_past]
  intro hdollar
  obtain ⟨token, ht, hbegin⟩ := hrest _ hdollar
  exact (hhead token ht).2 hbegin

/-! #### Shell words and keys -/

theorem finds_shellWord {v : Text} (h : Layout (.shellWord v :: more) c.rest) :
    ∃ next, Finds shellWord c v next ∧ Layout more next.rest ∧
      ((∃ w, more.head? = some (.shellWord w)) ∨ next.rest.EndsLine) := by
  obtain ⟨g, s, rest, -, hskip, hs, hend, h⟩ := h.first trivial
  have hword : WordAt v s rest := by
    rcases hs with hs | hs
    · exact .inl hs
    · rcases hend.1 with hs' | hblank
      · exact .inl hs'
      · exact .inr ⟨hs, hblank⟩
  refine ⟨_, (Rule.finds_shellWord hskip).2 ⟨s, rest, rfl, hword, rfl⟩, ?_⟩
  rw [Cursor.rest_past hskip.rest_past]
  exact ⟨h, hend.2⟩

theorem finds_key {k : Text} (h : Layout (.key k :: .mark ':' :: more) c.rest) :
    ∃ pos next, Finds key c (k, pos) next ∧ Layout more next.rest := by
  obtain ⟨g, s, rest, hskip, -, ⟨hk, rfl⟩, hend, h⟩ := h.first trivial
  rw [← Cursor.rest_past hskip.rest_past] at h
  obtain ⟨g', s', rest', -, hskip', rfl, -, h⟩ := h.first rfl
  refine ⟨_, _, (Rule.finds_key hskip).2 ⟨rfl, hk, rest, g', rest', rfl, hend, hskip', rfl⟩, ?_⟩
  rwa [Cursor.rest_past hskip'.rest_past]

/-- The brace at the end of a menu is no key. -/
theorem misses_key (h : Layout (.mark '\x7d' :: more) c.rest)
    (hmore : ∀ token ∈ more.head?, token.Solid ∧ ¬ token.MayBegin ':') : Misses key c := by
  obtain ⟨g, s, rest, hskip, -, rfl, hend, h⟩ := h.first rfl
  have hblank := hend rfl
  have hbrace : ['\x7d'] ++ rest = '\x7d' :: rest := rfl
  obtain ⟨g', rest', hgap⟩ := ((c.past g).past ['\x7d']).exists_skips .sameLine
  have hchar : ∀ d ∈ ['\x7d'], isKeyChar d = true := List.forall_mem_singleton.2 (by decide)
  refine (Rule.misses_key hskip hbrace hchar (fun d hd => ?_) hgap).2 (.inr fun hcolon => ?_)
  · simp [isKeyChar, hblank d hd]
  · -- A colon ends every gap, so that it would begin the next token.
    rw [← Cursor.rest_past hskip.rest_past] at h
    obtain ⟨g'', rest'', hskip', hrest⟩ := h.exists_skips fun token ht => (hmore token ht).1
    obtain ⟨text, rfl⟩ := List.head?_eq_some_iff.1 hcolon
    obtain ⟨-, rfl⟩ := hskip'.unique ⟨hgap.1, hgap.2.1.anyLine, rfl⟩
    obtain ⟨token, ht, hbegin⟩ := hrest ':' rfl
    exact (hmore token ht).2 hbegin

end Layout

end KeyMenu
