import KeyMenu.Proofs.Tree.Layout
import KeyMenu.Proofs.Tree.Reading
import KeyMenu.Proofs.Tree.Unplaced

/-!
# Every layout of a tree is read

In front of a layout of the tokens of a construct, the rule of the construct finds it, wherever its
nodes stand, and leaves a layout of the tokens behind it. What a rule looks for in vain on the way
is decided by the first token that comes next.

* one lemma for each rule of the grammar;
* `Tree.File.parse_of_layout`: a layout of a tree that follows the grammar is parsed to that tree.
-/

namespace KeyMenu

open Tree

namespace Layout

open Rule

variable {α β : Type} {toks more : List Token} {c : Cursor}

/-! ### Lists -/

/-- What holds of the first tokens of all items and of what follows them holds of whatever comes
next. -/
theorem forall_head? {tokens : α → List Token} {Q : Token → Prop} {l : List α}
    (hl : ∀ a ∈ l, ∃ t ts, tokens a = t :: ts ∧ Q t) (hmore : ∀ t ∈ more.head?, Q t) :
    ∀ t ∈ (l.flatMap tokens ++ more).head?, Q t := by
  cases l with
  | nil => exact hmore
  | cons a l =>
      obtain ⟨t, ts, ha, hq⟩ := hl a (by simp)
      intro u hu
      rw [List.flatMap_cons, ha] at hu
      exact Option.mem_some.1 hu ▸ hq

/-- A rule that finds each item of a list, and does not begin behind the list, finds the list when
it is repeated. `P` is what else is known of the text in front of each item. -/
theorem repeats {r : Rule α} (hr : Shortens r) {tokens : α → List Token} (bare : α → β)
    (P : List Token → Text → Prop) {values : List α}
    (hstep : ∀ a rest, (a :: rest) <:+ values → ∀ c : Cursor,
      Layout (tokens a ++ (rest.flatMap tokens ++ more)) c.rest →
      P (tokens a ++ (rest.flatMap tokens ++ more)) c.rest →
      ∃ a' next, Finds r c a' next ∧ bare a' = bare a ∧
        Layout (rest.flatMap tokens ++ more) next.rest ∧ P (rest.flatMap tokens ++ more) next.rest)
    (hend : ∀ c : Cursor, Layout more c.rest → P more c.rest → Misses r c)
    (h : Layout (values.flatMap tokens ++ more) c.rest)
    (hP : P (values.flatMap tokens ++ more) c.rest) :
    ∃ values' next, Repeats r c values' next ∧ values'.map bare = values.map bare ∧
      Layout more next.rest ∧ P more next.rest := by
  induction values generalizing c with
  | nil => exact ⟨[], c, .done (hend c h hP), rfl, h, hP⟩
  | cons a rest ih =>
      rw [List.flatMap_cons, List.append_assoc] at h hP
      obtain ⟨a', mid, hf, ha, h, hP⟩ := hstep a rest List.suffix_rfl c h hP
      obtain ⟨values', next, hrepeat, hvalues, hnext⟩ :=
        ih (fun b l hl => hstep b l (hl.trans (List.suffix_cons a rest))) h hP
      refine ⟨a' :: values', next, .again hf (hr _ _ _ hf) hrepeat, ?_, hnext⟩
      rw [List.map_cons, List.map_cons, ha, hvalues]

/-! ### Expressions -/

theorem finds_piece (p : Tree.Piece) (h : Layout (p.leaf.token :: more) c.rest) :
    ∃ p' next, Finds piece c p' next ∧ p'.unplaced = p.unplaced ∧ Layout more next.rest ∧
      SignAllowed more.head? next.rest := by
  cases p with
  | literal value pos =>
      obtain ⟨pos', next, hf, h, hsign⟩ := finds_string h
      exact ⟨.literal value pos', next,
        finds_orElse.2 (.inl (hf.bind (finds_pure.2 ⟨rfl, rfl⟩))), rfl, h, hsign⟩
  | reference name pos =>
      have hmiss := h.misses_string fun t ht => by
        obtain rfl := Option.mem_some.1 ht
        exact ⟨trivial, by simp [Tree.Piece.leaf, Token.MayBegin]⟩
      obtain ⟨pos', next, hf, h, hsign⟩ := finds_reference h
      exact ⟨.reference name pos', next, finds_orElse.2 (.inr ⟨hmiss.bind, hf⟩), rfl, h, hsign⟩

theorem misses_piece (h : Layout toks c.rest) (hhead : ∀ t ∈ toks.head?,
      t.Solid ∧ ¬ t.MayBegin '"' ∧ ¬ t.MayBegin '!' ∧ ¬ t.MayBegin '$') : Misses piece c := by
  refine misses_orElse.2 ⟨(h.misses_string fun t ht => ?_).bind, h.misses_reference fun t ht => ?_⟩
  · obtain ⟨hsolid, hquote, hbang, -⟩ := hhead t ht
    exact ⟨hsolid, hquote, hbang⟩
  · obtain ⟨hsolid, -, -, hdollar⟩ := hhead t ht
    exact ⟨hsolid, hdollar⟩

/-- The tokens of the further pieces of an expression. -/
def tailTokens (tail : List Tree.Piece) : List Token :=
  tail.flatMap fun p => [.mark '+', p.leaf.token]

theorem tokens_expression (e : Tree.Expression) :
    tokens e.leaves = e.head.leaf.token :: tailTokens e.tail := by
  simp only [Tree.Expression.leaves, tokens, List.map_cons, List.map_flatMap, tailTokens,
    List.map_nil]

theorem finds_expressionFrom {head head' : Tree.Piece} (hhead : head'.unplaced = head.unplaced)
    {tail : List Tree.Piece} (h : Layout (tailTokens tail ++ more) c.rest)
    (hsign : SignAllowed (tailTokens tail ++ more).head? c.rest)
    (hmore : more.head? ≠ some (.mark '+')) :
    ∃ e next, Finds (expressionFrom head') c e next ∧
      e.unplaced = Tree.Expression.unplaced ⟨head, tail⟩ ∧ Layout more next.rest := by
  obtain ⟨tail', next, hrepeat, htail, h, -⟩ := repeats
    (shortens_behind_mark (fun p => [p.leaf]) rfl reads_piece)
    Tree.Piece.unplaced (fun toks t => SignAllowed toks.head? t)
    (fun p rest _ c h _ => by
      obtain ⟨mid, hmark, h⟩ := finds_mark h rfl rfl
      obtain ⟨p', next, hf, hp, h⟩ := finds_piece p h
      exact ⟨p', next, hmark.bind (finds_commit.2 hf), hp, h⟩)
    (fun c h hsign => (h.misses_sign hsign (.inl rfl) hmore).bind) h hsign
  refine ⟨⟨head', tail'⟩, next, hrepeat.finds_many.bind (finds_pure.2 ⟨rfl, rfl⟩), ?_, h⟩
  rw [Tree.Expression.unplaced, Tree.Expression.unplaced, hhead, htail]

theorem finds_expression (e : Tree.Expression) (h : Layout (tokens e.leaves ++ more) c.rest)
    (hmore : more.head? ≠ some (.mark '+')) :
    ∃ e' next, Finds expression c e' next ∧ e'.unplaced = e.unplaced ∧ Layout more next.rest := by
  rw [tokens_expression, List.cons_append] at h
  obtain ⟨head', mid, hf, hhead, h, hsign⟩ := finds_piece e.head h
  obtain ⟨e', next, hf', he, h⟩ := finds_expressionFrom hhead h hsign hmore
  exact ⟨e', next, hf.bind hf', he, h⟩

/-! ### Commands -/

/-- The token is the first one of an inline command. -/
def OpensCommand : Token → Prop
  | .string _ => True
  | .reference _ => True
  | .mark c => c = '@'
  | _ => False

/-- An inline command is no word and does not go on a list. -/
theorem OpensCommand.avoids {t : Token} (h : OpensCommand t) :
    t.Solid ∧ (∀ d, t.MayBegin d → isSymbolChar d = false) ∧
      ¬ t.MayBegin ',' ∧ ¬ t.MayBegin '=' := by
  cases t with
  | string v => exact ⟨trivial, by rintro d (rfl | rfl) <;> decide, by simp [Token.MayBegin]⟩
  | reference n => exact ⟨trivial, by rintro d rfl; decide, by simp [Token.MayBegin]⟩
  | mark c =>
      obtain rfl := h
      exact ⟨rfl, by rintro d rfl; decide, by simp [Token.MayBegin]⟩
  | word _ | name _ | key _ | shellWord _ => exact h.elim

theorem opensCommand_leaf (p : Tree.Piece) : OpensCommand p.leaf.token := by
  cases p <;> trivial

theorem exists_opensCommand (q : Tree.QuickCommand) :
    ∃ t ts, tokens q.leaves = t :: ts ∧ OpensCommand t := by
  obtain ⟨e, name, toggles⟩ := q
  cases name with
  | some v => exact ⟨_, _, rfl, trivial⟩
  | none =>
      cases toggles with
      | true => exact ⟨_, _, rfl, rfl⟩
      | false => exact ⟨_, _, rfl, opensCommand_leaf e.head⟩

theorem misses_toggle {p : Tree.Piece} (h : Layout (p.leaf.token :: more) c.rest) :
    Misses (mark .anyLine '@') c :=
  h.misses_mark fun t ht => by
    obtain rfl := Option.mem_some.1 ht
    cases p with
    | literal _ _ => exact ⟨trivial, by simp [Tree.Piece.leaf, Token.MayBegin]⟩
    | reference _ _ => exact ⟨trivial, by simp [Tree.Piece.leaf, Token.MayBegin]⟩

/-- The sign that marks a command, where there is one. -/
theorem finds_toggle {toggles : Bool} {e : Tree.Expression}
    (h : Layout ((if toggles then [.mark '@'] else []) ++ (tokens e.leaves ++ more)) c.rest) :
    ∃ o next, Finds (optional (mark .anyLine '@')) c o next ∧ o.isSome = toggles ∧
      Layout (tokens e.leaves ++ more) next.rest := by
  cases toggles with
  | true =>
      obtain ⟨next, hf, h⟩ := finds_mark h rfl rfl
      exact ⟨some (), next, hf.to_optional, rfl, h⟩
  | false => exact ⟨none, c, (misses_toggle h).to_optional, rfl, h⟩

theorem tokens_quickCommand (q : Tree.QuickCommand) :
    tokens q.leaves = (q.name.toList.flatMap fun name => [.string name, .mark '-']) ++
      ((if q.togglesEcho then [.mark '@'] else []) ++ tokens q.expr.leaves) := by
  obtain ⟨e, name, toggles⟩ := q
  cases name <;> cases toggles <;> rfl

/-- Where no string begins, a command has no name. -/
theorem finds_unnamed {e : Tree.Expression} {toggles : Bool} (hstring : Misses string c)
    (h : Layout ((if toggles then [.mark '@'] else []) ++ (tokens e.leaves ++ more)) c.rest)
    (hmore : more.head? ≠ some (.mark '+')) :
    ∃ q' next, Finds quickCommand c q' next ∧
      q'.unplaced = Tree.QuickCommand.unplaced ⟨e, none, toggles⟩ ∧ Layout more next.rest := by
  obtain ⟨o, mid, htoggle, rfl, hrest⟩ := finds_toggle h
  obtain ⟨e', next, he, heq, h⟩ := finds_expression _ hrest hmore
  refine ⟨⟨e', none, o.isSome⟩, next, hstring.to_optional.bind (htoggle.bind ?_), ?_, h⟩
  · cases o with
    | some u => exact finds_commit.2 (he.bind (finds_pure.2 ⟨rfl, rfl⟩))
    | none => exact he.bind (finds_pure.2 ⟨rfl, rfl⟩)
  · rw [Tree.QuickCommand.unplaced, Tree.QuickCommand.unplaced, heq]

/-- A first string without a minus sign behind it is no name but a part of the expression. -/
theorem finds_quickCommand_literal {v : Text} {pos : Position} {tail : List Tree.Piece}
    (h : Layout (.string v :: (tailTokens tail ++ more)) c.rest)
    (hmore : ∀ t ∈ more.head?, t ≠ .mark '+' ∧ t ≠ .mark '-') :
    ∃ q' next, Finds quickCommand c q' next ∧
      q'.unplaced = Tree.QuickCommand.unplaced ⟨⟨.literal v pos, tail⟩, none, false⟩ ∧
      Layout more next.rest := by
  obtain ⟨pos', mid, hstring, h, hsign⟩ := finds_string h
  have hdash : Misses (mark .sameLine '-') mid := by
    refine h.misses_sign hsign (.inr rfl) fun hhead => ?_
    cases tail with
    | nil => exact (hmore _ hhead).2 rfl
    | cons p tail => exact absurd (Option.some.inj hhead) (by decide)
  have hhead : (Tree.Piece.literal v pos').unplaced = (Tree.Piece.literal v pos).unplaced := rfl
  obtain ⟨e', next, he, heq, h⟩ := finds_expressionFrom hhead h hsign fun hm => (hmore _ hm).1 rfl
  refine ⟨⟨e', none, false⟩, next, hstring.to_optional.bind (hdash.to_optional.bind ?_), ?_, h⟩
  · exact he.bind (finds_pure.2 ⟨rfl, rfl⟩)
  · rw [Tree.QuickCommand.unplaced, Tree.QuickCommand.unplaced, heq]

theorem finds_quickCommand (q : Tree.QuickCommand) (h : Layout (tokens q.leaves ++ more) c.rest)
    (hmore : ∀ t ∈ more.head?, t ≠ .mark '+' ∧ t ≠ .mark '-') :
    ∃ q' next, Finds quickCommand c q' next ∧ q'.unplaced = q.unplaced ∧
      Layout more next.rest := by
  obtain ⟨⟨head, tail⟩, name, toggles⟩ := q
  have hplus : more.head? ≠ some (.mark '+') := fun hm => (hmore _ hm).1 rfl
  rw [tokens_quickCommand, List.append_assoc, List.append_assoc] at h
  cases name with
  | some v =>
      obtain ⟨pos, mid, hname, h, -⟩ := finds_string h
      obtain ⟨mid₁, hdash, h⟩ := finds_mark h rfl rfl
      obtain ⟨o, mid₂, htoggle, rfl, h⟩ := finds_toggle h
      obtain ⟨e', next, he, heq, h⟩ := finds_expression _ h hplus
      refine ⟨⟨e', some v, o.isSome⟩, next,
        hname.to_optional.bind (hdash.to_optional.bind ?_), ?_, h⟩
      · exact finds_commit.2 (htoggle.bind (he.bind (finds_pure.2 ⟨rfl, rfl⟩)))
      · rw [Tree.QuickCommand.unplaced, Tree.QuickCommand.unplaced, heq]
  | none =>
      cases toggles with
      | true =>
          refine finds_unnamed (h.misses_string fun t ht => ?_) h hplus
          obtain rfl := Option.mem_some.1 ht
          exact ⟨rfl, by simp [Token.MayBegin]⟩
      | false =>
          cases head with
          | literal v pos =>
              rw [tokens_expression] at h
              exact finds_quickCommand_literal h hmore
          | reference n pos =>
              refine finds_unnamed (h.misses_string fun t ht => ?_) h hplus
              obtain rfl := Option.mem_some.1 ht
              exact ⟨trivial, by simp [Tree.Piece.leaf, Token.MayBegin]⟩

theorem misses_quickCommand {n : Text} (h : Layout (.name n :: more) c.rest) :
    Misses quickCommand c := by
  have hbegin {d : Char} (hd : isSymbolChar d = false) : ¬ (Token.name n).MayBegin d := by
    simp [Token.MayBegin, hd]
  have hstring : Misses string c := h.misses_string fun t ht => by
    obtain rfl := Option.mem_some.1 ht
    exact ⟨trivial, hbegin (by decide), hbegin (by decide)⟩
  have htoggle : Misses (mark .anyLine '@') c := h.misses_mark fun t ht => by
    obtain rfl := Option.mem_some.1 ht
    exact ⟨trivial, hbegin (by decide)⟩
  have hpiece : Misses piece c := h.misses_piece fun t ht => by
    obtain rfl := Option.mem_some.1 ht
    exact ⟨trivial, hbegin (by decide), hbegin (by decide), hbegin (by decide)⟩
  exact hstring.to_optional.misses_bind (htoggle.to_optional.misses_bind hpiece.bind.bind)

/-! ### Clauses and blocks -/

/-- The items of a list with commas between them, and what follows them. -/
theorem finds_commaList {item : Rule α} (leaves : α → List Leaf) (bare : α → β)
    (hreads : ∀ {c a next}, Finds item c a next → Reads (leaves a) c next)
    {items : List α} (hne : items ≠ [])
    (hitem : ∀ a ∈ items, ∀ (more : List Token) (c : Cursor),
      (∀ t ∈ more.head?, t.Solid ∧ ¬ t.MayBegin '=') → Layout (tokens (leaves a) ++ more) c.rest →
      ∃ a' next, Finds item c a' next ∧ bare a' = bare a ∧ Layout more next.rest)
    (h : Layout (tokens (listed (items.map leaves)) ++ more) c.rest)
    (hmore : ∀ t ∈ more.head?, t.Solid ∧ ¬ t.MayBegin ',' ∧ ¬ t.MayBegin '=') :
    ∃ items' next, Finds (commaList item) c items' next ∧ items'.map bare = items.map bare ∧
      Layout more next.rest := by
  obtain ⟨first, rest, rfl⟩ := List.exists_cons_of_ne_nil hne
  rw [List.map_cons, listed, List.flatMap_map, tokens_append, tokens_flatMap,
    List.append_assoc] at h
  -- Behind an item stands a comma or what follows the list; neither makes the item read on.
  have hfollow (l : List α) : ∀ t ∈ (l.flatMap (fun a => tokens (⟨.mark ',', none⟩ :: leaves a)) ++
      more).head?, t.Solid ∧ ¬ t.MayBegin '=' := by
    refine forall_head? (fun a _ => ⟨.mark ',', _, rfl, rfl, by simp [Token.MayBegin]⟩)
      fun t ht => ?_
    exact ⟨(hmore t ht).1, (hmore t ht).2.2⟩
  obtain ⟨first', mid, hf, hfirst, h⟩ := hitem first (by simp) _ c (hfollow rest) h
  obtain ⟨rest', next, hrepeat, hrest, h, -⟩ := repeats
    (shortens_behind_mark leaves rfl hreads) bare (fun _ _ => True)
    (fun a l hl c h _ => by
      obtain ⟨mid, hmark, h⟩ := finds_mark h rfl rfl
      have ha : a ∈ first :: rest := List.mem_cons_of_mem _ (hl.subset (by simp))
      obtain ⟨a', next, hf, ha, h⟩ := hitem a ha _ mid (hfollow l) h
      exact ⟨a', next, hmark.bind (finds_commit.2 hf), ha, h, trivial⟩)
    (fun c h _ => (h.misses_mark fun t ht => ⟨(hmore t ht).1, (hmore t ht).2.1⟩).bind) h trivial
  refine ⟨first' :: rest', next, finds_commit.2 (hf.bind (hrepeat.finds_many.bind ?_)), ?_, h⟩
  · exact finds_pure.2 ⟨rfl, rfl⟩
  · rw [List.map_cons, List.map_cons, hfirst, hrest]

theorem finds_variableDefinition (v : Tree.Variable) (h : Layout (tokens v.leaves ++ more) c.rest)
    (hmore : ∀ t ∈ more.head?, t.Solid ∧ ¬ t.MayBegin '=') :
    ∃ v' next, Finds variableDefinition c v' next ∧ v'.unplaced = v.unplaced ∧
      Layout more next.rest := by
  obtain ⟨n, default, pos⟩ := v
  obtain ⟨pos', mid, hname, h⟩ := finds_symbol "variable name".toList h
  cases default with
  | none =>
      refine ⟨⟨n, none, pos'⟩, mid, hname.bind ?_, rfl, h⟩
      exact (h.misses_mark hmore).bind.to_optional.bind (finds_pure.2 ⟨rfl, rfl⟩)
  | some value =>
      obtain ⟨mid₁, hmark, h⟩ := finds_mark h rfl rfl
      obtain ⟨pos'', next, hvalue, h, -⟩ := finds_string h
      refine ⟨⟨n, some value, pos'⟩, next, hname.bind ?_, rfl, h⟩
      exact (hmark.bind (finds_commit.2 hvalue)).to_optional.bind (finds_pure.2 ⟨rfl, rfl⟩)

theorem tokens_shellLine (l : Tree.ShellLine) :
    tokens l.leaves = .word "shell".toList :: l.shell.words.flatMap fun w => [.shellWord w] := by
  rw [Tree.ShellLine.leaves, tokens_cons, tokens, List.map_map, List.map_eq_flatMap]
  rfl

/-- A shell line ends with its line, because no further word follows. -/
theorem finds_shellLine (l : Tree.ShellLine) (h : Layout (tokens l.leaves ++ more) c.rest)
    (hmore : ∀ t ∈ more.head?, ∀ w, t ≠ .shellWord w) :
    ∃ l' next, Finds shellLine c l' next ∧ l'.unplaced = l.unplaced ∧ Layout more next.rest := by
  rw [tokens_shellLine] at h
  obtain ⟨pos', mid, h, hplaced⟩ := finds_placed (by decide) h
  -- In front of each round a word comes next or the line ends, which stops the repetition.
  obtain ⟨words', next, hrepeat, hwords, h, -⟩ := repeats shortens_shellWord id
    (fun toks t => (∃ w, toks.head? = some (.shellWord w)) ∨ t.EndsLine)
    (fun w rest _ c h _ => by
      obtain ⟨next, hf, h, hend⟩ := finds_shellWord h
      exact ⟨w, next, hf, rfl, h, hend⟩)
    (fun c h hend => by
      rcases hend with ⟨w, hw⟩ | hend
      · exact absurd rfl (hmore _ hw w)
      · exact hend.misses_shellWord)
    h (.inl ⟨l.shell.program, rfl⟩)
  rw [List.map_id, List.map_id] at hwords
  subst hwords
  refine ⟨⟨l.shell, pos'⟩, next, hplaced ?_, rfl, h⟩
  exact (finds_shellWords.2 hrepeat).bind (finds_pure.2 ⟨rfl, rfl⟩)

theorem unlike_of_opensCommand {t : Token} (h : OpensCommand t) (w : Text) : Unlike w t :=
  ⟨h.avoids.1, .inl h.avoids.2.1⟩

theorem misses_clause (h : Layout toks c.rest) (hhead : ∀ t ∈ toks.head?, OpensCommand t) :
    Misses clause c := by
  have hunlike (w : Text) : ∀ t ∈ toks.head?, Unlike w t := fun t ht =>
    unlike_of_opensCommand (hhead t ht) w
  refine misses_orElse.2 ⟨?_, misses_orElse.2 ⟨?_, ?_⟩⟩
  · exact (h.misses_keyword (by decide) (hunlike _)).bind
  · exact (h.misses_keyword (by decide) (hunlike _)).bind
  · exact Misses.bind (h.misses_placed (by decide) (hunlike _))

/-- The token is the first one of a clause. -/
def OpensClause (t : Token) : Prop :=
  t = .word "set".toList ∨ t = .word "vars".toList ∨ t = .word "shell".toList

theorem exists_opensClause (cl : Clause) : ∃ t ts, tokens cl.leaves = t :: ts ∧ OpensClause t := by
  cases cl with
  | set names => exact ⟨_, _, rfl, .inl rfl⟩
  | vars vs => exact ⟨_, _, rfl, .inr (.inl rfl)⟩
  | shell line => exact ⟨_, _, rfl, .inr (.inr rfl)⟩

theorem OpensClause.avoids {t : Token} (h : OpensClause t) :
    t.Solid ∧ ¬ t.MayBegin ',' ∧ ¬ t.MayBegin '=' := by
  rcases h with rfl | rfl | rfl
  all_goals exact ⟨by simp only [Token.Solid]; decide, by simp [Token.MayBegin]⟩

theorem finds_clause (cl : Clause) (hproper : cl.Proper)
    (h : Layout (tokens cl.leaves ++ more) c.rest)
    (hmore : ∀ t ∈ more.head?, OpensClause t ∨ OpensCommand t) :
    ∃ cl' next, Finds clause c cl' next ∧ cl'.unplaced = cl.unplaced ∧ Layout more next.rest := by
  have havoids : ∀ t ∈ more.head?, t.Solid ∧ ¬ t.MayBegin ',' ∧ ¬ t.MayBegin '=' := fun t ht => by
    rcases hmore t ht with hcl | hq
    · exact hcl.avoids
    · exact ⟨hq.avoids.1, hq.avoids.2.2⟩
  have hunlike {v w : Text} {ts : List Token} (hv : IsName v) (hne : v ≠ w) :
      ∀ t ∈ (Token.word v :: ts).head?, Unlike w t := fun t ht => by
    obtain rfl := Option.mem_some.1 ht
    exact ⟨hv, .inr ⟨v, .inl rfl, hne⟩⟩
  cases cl with
  | set names =>
      obtain ⟨mid, hword, h⟩ := finds_keyword (by decide) h
      obtain ⟨names', next, hf, hnames, h⟩ := finds_commaList (fun s => [s.leaf])
        Tree.Symbol.unplaced reads_symbol hproper
        (fun s _ more c _ h => by
          obtain ⟨pos, next, hf, h⟩ := finds_symbol "setting name".toList h
          exact ⟨⟨s.name, pos⟩, next, hf, rfl, h⟩)
        h havoids
      refine ⟨.set names', next, finds_orElse.2 (.inl (hword.bind (hf.bind ?_))), ?_, h⟩
      · exact finds_pure.2 ⟨rfl, rfl⟩
      · rw [Clause.unplaced, Clause.unplaced, hnames]
  | vars vs =>
      have hset : Misses (keyword "set".toList) c :=
        h.misses_keyword (by decide) (hunlike (by decide) (by decide))
      obtain ⟨mid, hword, h⟩ := finds_keyword (by decide) h
      obtain ⟨vs', next, hf, hvs, h⟩ := finds_commaList Tree.Variable.leaves Tree.Variable.unplaced
        reads_variableDefinition hproper
        (fun v _ more c hmore h => finds_variableDefinition v h hmore) h havoids
      refine ⟨.vars vs', next, finds_orElse.2 (.inr ⟨hset.bind, finds_orElse.2 (.inl ?_)⟩), ?_, h⟩
      · exact hword.bind (hf.bind (finds_pure.2 ⟨rfl, rfl⟩))
      · rw [Clause.unplaced, Clause.unplaced, hvs]
  | shell line =>
      have hset : Misses (keyword "set".toList) c :=
        h.misses_keyword (by decide) (hunlike (by decide) (by decide))
      have hvars : Misses (keyword "vars".toList) c :=
        h.misses_keyword (by decide) (hunlike (by decide) (by decide))
      obtain ⟨line', next, hf, hline, h⟩ := finds_shellLine line h fun t ht w => by
        rintro rfl
        rcases hmore _ ht with (h | h | h) | h
        · cases h
        · cases h
        · cases h
        · exact h
      refine ⟨.shell line', next,
        finds_orElse.2 (.inr ⟨hset.bind, finds_orElse.2 (.inr ⟨hvars.bind, ?_⟩)⟩), ?_, h⟩
      · exact hf.bind (finds_pure.2 ⟨rfl, rfl⟩)
      · rw [Clause.unplaced, Clause.unplaced, hline]

theorem finds_commandBlock (b : Tree.CommandBlock) (hproper : ∀ cl ∈ b.clauses, cl.Proper)
    (h : Layout (tokens b.leaves ++ more) c.rest) :
    ∃ b' next, Finds commandBlock c b' next ∧ b'.unplaced = b.unplaced ∧ Layout more next.rest := by
  obtain ⟨clauses, q, pos⟩ := b
  simp only [Tree.CommandBlock.leaves, tokens_cons, tokens_append, tokens_flatMap, tokens_nil,
    List.append_assoc, List.cons_append, List.nil_append] at h
  obtain ⟨pos', mid, h, hplaced⟩ := finds_placed (by decide) h
  obtain ⟨mid₁, hopen, h⟩ := finds_mark h rfl rfl
  -- The clauses end where the command begins, because no clause begins like a command.
  have hquick : ∀ t ∈ (tokens q.leaves ++ .mark '\x7d' :: more).head?, OpensCommand t := by
    obtain ⟨t, ts, hq, hopens⟩ := exists_opensCommand q
    rw [hq]
    exact fun u hu => Option.mem_some.1 hu ▸ hopens
  obtain ⟨clauses', mid₂, hrepeat, hclauses, h, -⟩ := repeats shortens_clause Clause.unplaced
    (fun _ _ => True)
    (fun cl l hl c h _ => by
      obtain ⟨cl', next, hf, hcl, h⟩ := finds_clause cl (hproper cl (hl.subset (by simp))) h <|
        forall_head? (fun cl' _ => by
          obtain ⟨t, ts, ht, hopens⟩ := exists_opensClause cl'
          exact ⟨t, ts, ht, .inl hopens⟩) fun t ht => .inr (hquick t ht)
      exact ⟨cl', next, hf, hcl, h, trivial⟩)
    (fun c h _ => misses_clause h hquick) h trivial
  obtain ⟨q', mid₃, hq, heq, h⟩ := finds_quickCommand q h fun t ht => by
    obtain rfl := Option.mem_some.1 ht
    exact ⟨by simp, by simp⟩
  obtain ⟨next, hclose, h⟩ := finds_mark h rfl rfl
  refine ⟨⟨clauses', q', pos'⟩, next, hplaced (hopen.bind (finds_commit.2 ?_)), ?_, h⟩
  · exact hrepeat.finds_many.bind (hq.bind (hclose.bind (finds_pure.2 ⟨rfl, rfl⟩)))
  · rw [Tree.CommandBlock.unplaced, Tree.CommandBlock.unplaced, hclauses, heq]

/-! ### Entries and menus -/

theorem misses_commandBlock (h : Layout toks c.rest)
    (hhead : ∀ t ∈ toks.head?, Unlike "cmd".toList t) : Misses commandBlock c :=
  h.misses_placed (by decide) hhead

/-- The name of a menu begins no block, even if it is the word `cmd`. -/
theorem misses_commandBlock_name {n : Text} (h : Layout (.name n :: more) c.rest)
    (hmore : n = "cmd".toList → ∀ t ∈ more.head?, t.Solid ∧ ¬ t.MayBegin '\x7b') :
    Misses commandBlock c := by
  by_cases hn : n = "cmd".toList
  · obtain ⟨g, s, rest, hskip, -, ⟨-, rfl⟩, hend, h⟩ := h.first trivial
    -- The word is found and taken back again, because no brace follows it.
    have hword : Finds (keyword "cmd".toList) (c.past g) () ((c.past g).past s) :=
      (Rule.finds_keyword hskip.again).2 ⟨rest, by rw [hn], hend, by rw [hn]; rfl⟩
    rw [← Cursor.rest_past hskip.rest_past] at h
    rw [commandBlock, misses_skip_bind hskip, misses_here_bind]
    exact hword.misses_bind (h.misses_mark (hmore hn)).bind
  · refine misses_commandBlock h fun t ht => ?_
    obtain rfl := Option.mem_some.1 ht
    exact ⟨trivial, .inr ⟨n, .inr rfl, hn⟩⟩

/-- What follows an entry: another one, or the brace at the end of the menu. -/
def EndsEntry (t : Token) : Prop := (∃ k, t = .key k) ∨ t = .mark '\x7d'

theorem finds_entryValue (v : Tree.EntryValue) (hproper : v.Proper)
    (h : Layout (tokens v.leaves ++ more) c.rest) (hmore : ∀ t ∈ more.head?, EndsEntry t)
    (hbefore : ∀ k, more.head? = some (.key k) → v.Before k) :
    ∃ v' next, Finds entryValue c v' next ∧ v'.unplaced = v.unplaced ∧ Layout more next.rest := by
  cases v with
  | menu s =>
      have hblock : Misses commandBlock c := misses_commandBlock_name h fun hcmd t ht => by
        rcases hmore t ht with ⟨k, rfl⟩ | rfl
        · exact ⟨trivial, hbefore k ht s rfl hcmd⟩
        · exact ⟨rfl, by simp [Token.MayBegin]⟩
      have hquick : Misses quickCommand c := misses_quickCommand h
      obtain ⟨pos, next, hf, h⟩ := finds_symbol "menu name".toList h
      refine ⟨.menu ⟨s.name, pos⟩, next, finds_commit.2 (finds_orElse.2 (.inr ⟨hblock.bind, ?_⟩)),
        rfl, h⟩
      exact finds_orElse.2 (.inr ⟨hquick.bind, hf.bind (finds_pure.2 ⟨rfl, rfl⟩)⟩)
  | quick q =>
      have hblock : Misses commandBlock c := misses_commandBlock h fun t ht => by
        obtain ⟨u, ts, hq, hopens⟩ := exists_opensCommand q
        rw [Tree.EntryValue.leaves, hq] at ht
        exact unlike_of_opensCommand (Option.mem_some.1 ht ▸ hopens) _
      obtain ⟨q', next, hf, hq, h⟩ := finds_quickCommand q h fun t ht => by
        rcases hmore t ht with ⟨k, rfl⟩ | rfl
        · exact ⟨nofun, nofun⟩
        · exact ⟨by simp, by simp⟩
      refine ⟨.quick q', next, finds_commit.2 (finds_orElse.2 (.inr ⟨hblock.bind, ?_⟩)), ?_, h⟩
      · exact finds_orElse.2 (.inl (hf.bind (finds_pure.2 ⟨rfl, rfl⟩)))
      · rw [Tree.EntryValue.unplaced, Tree.EntryValue.unplaced, hq]
  | block b =>
      obtain ⟨b', next, hf, hb, h⟩ := finds_commandBlock b hproper h
      refine ⟨.block b', next, finds_commit.2 (finds_orElse.2 (.inl ?_)), ?_, h⟩
      · exact hf.bind (finds_pure.2 ⟨rfl, rfl⟩)
      · rw [Tree.EntryValue.unplaced, Tree.EntryValue.unplaced, hb]

theorem finds_entry (e : Tree.Entry) (hproper : e.value.Proper)
    (h : Layout (tokens e.leaves ++ more) c.rest) (hmore : ∀ t ∈ more.head?, EndsEntry t)
    (hbefore : ∀ k, more.head? = some (.key k) → e.value.Before k) :
    ∃ e' next, Finds entry c e' next ∧ e'.unplaced = e.unplaced ∧ Layout more next.rest := by
  obtain ⟨pos, mid, hkey, h⟩ := finds_key h
  obtain ⟨v', next, hf, hv, h⟩ := finds_entryValue e.value hproper h hmore hbefore
  refine ⟨⟨e.key, v', pos⟩, next, hkey.bind (hf.bind (finds_pure.2 ⟨rfl, rfl⟩)), ?_, h⟩
  rw [Tree.Entry.unplaced, Tree.Entry.unplaced, hv]

/-- The token is the first one of an item. -/
def OpensItem (t : Token) : Prop := t = .word "menu".toList ∨ t = .word "snippet".toList

theorem exists_opensItem (i : Item) : ∃ t ts, tokens i.leaves = t :: ts ∧ OpensItem t := by
  cases i with
  | menu m => exact ⟨_, _, rfl, .inl rfl⟩
  | snippet s => exact ⟨_, _, rfl, .inr rfl⟩

theorem OpensItem.solid {t : Token} (h : OpensItem t) : t.Solid := by
  rcases h with rfl | rfl
  all_goals
    simp only [Token.Solid]
    decide

theorem tokens_menu (m : Tree.Menu) :
    tokens m.leaves ++ more = .word "menu".toList ::
      ((m.title.toList.flatMap fun t => [.string t]) ++ .name m.name :: .mark '\x7b' ::
        (m.entries.flatMap (fun e => tokens e.leaves) ++ .mark '\x7d' :: more)) := by
  obtain ⟨name, title, entries, pos⟩ := m
  cases title <;>
    simp only [Tree.Menu.leaves, tokens_cons, tokens_append, tokens_flatMap, tokens_nil,
      List.append_assoc, List.cons_append, List.nil_append, Option.toList, List.flatMap_cons,
      List.flatMap_nil]

/-- The title of a menu, where there is one. -/
theorem finds_title {title : Option Text} {name : Text}
    (h : Layout ((title.toList.flatMap fun t => [.string t]) ++ .name name :: more) c.rest) :
    ∃ o next, Finds (optional string) c o next ∧ o.map (·.1) = title ∧
      Layout (.name name :: more) next.rest := by
  cases title with
  | some t =>
      obtain ⟨pos, next, hf, h, -⟩ := finds_string h
      exact ⟨some (t, pos), next, hf.to_optional, rfl, h⟩
  | none =>
      refine ⟨none, c, (h.misses_string fun t ht => ?_).to_optional, rfl, h⟩
      obtain rfl := Option.mem_some.1 ht
      exact ⟨trivial, by simp only [Token.MayBegin]; decide⟩

/-- The entries of a menu, up to the brace behind them. -/
theorem finds_entries {entries : List Tree.Entry} (hne : entries ≠ [])
    (hchain : entries.IsChain fun e next => e.value.Before next.key)
    (hentries : ∀ e ∈ entries, e.value.Proper)
    (h : Layout (entries.flatMap (fun e => tokens e.leaves) ++ .mark '\x7d' :: more) c.rest)
    (hmore : ∀ t ∈ more.head?, OpensItem t) :
    ∃ entries' next, Finds (oneOrMore entry) c entries' next ∧
      entries'.map Tree.Entry.unplaced = entries.map Tree.Entry.unplaced ∧
      Layout (.mark '\x7d' :: more) next.rest := by
  obtain ⟨entries', next, hrepeat, heq, h, -⟩ := repeats shortens_entry Tree.Entry.unplaced
    (fun _ _ => True)
    (fun e l hl c h _ => by
      obtain ⟨e', next, hf, he, h⟩ := finds_entry e (hentries e (hl.subset (by simp))) h
        (forall_head? (fun e' _ => ⟨_, _, rfl, .inl ⟨e'.key, rfl⟩⟩)
          fun t ht => .inr (Option.mem_some.1 ht).symm)
        (fun k hk => by
          -- The next entry of the chain is the one whose key comes next.
          cases l with
          | nil => cases hk
          | cons e' l =>
              obtain rfl : e'.key = k := Token.key.inj (Option.some.inj hk)
              exact (hchain.suffix hl).rel)
      exact ⟨e', next, hf, he, h, trivial⟩)
    (fun c h _ => (h.misses_key fun t ht => by
      refine ⟨(hmore t ht).solid, ?_⟩
      rcases hmore t ht with rfl | rfl <;> simp [Token.MayBegin]).bind) h trivial
  have hne' : entries' ≠ [] := by
    rintro rfl
    exact hne (List.map_eq_nil_iff.1 heq.symm)
  exact ⟨entries', next, (finds_oneOrMore shortens_entry).2 ⟨hne', hrepeat⟩, heq, h⟩

theorem finds_menu (m : Tree.Menu) (hproper : m.Proper)
    (h : Layout (tokens m.leaves ++ more) c.rest)
    (hmore : ∀ t ∈ more.head?, OpensItem t) :
    ∃ m' next, Finds menu c m' next ∧ m'.unplaced = m.unplaced ∧ Layout more next.rest := by
  obtain ⟨hne, hchain, hentries⟩ := hproper
  rw [tokens_menu] at h
  obtain ⟨pos, mid, h, hplaced⟩ := finds_placed (by decide) h
  obtain ⟨o, mid₁, htitle, ho, h⟩ := finds_title h
  obtain ⟨npos, mid₂, hname, h⟩ := finds_symbol "menu name".toList h
  obtain ⟨mid₃, hopen, h⟩ := finds_mark h rfl rfl
  obtain ⟨entries', mid₄, hrepeat, heq, h⟩ := finds_entries hne hchain hentries h hmore
  obtain ⟨next, hclose, h⟩ := finds_mark h rfl rfl
  refine ⟨⟨m.name, o.map (·.1), entries', pos⟩, next,
    hplaced (finds_commit.2 (htitle.bind (hname.bind (hopen.bind ?_)))), ?_, h⟩
  · exact hrepeat.bind (hclose.bind (finds_pure.2 ⟨rfl, rfl⟩))
  · rw [Tree.Menu.unplaced, Tree.Menu.unplaced, heq, ho]

/-! ### Snippets, settings and files -/

theorem finds_snippet (s : Tree.Snippet) (h : Layout (tokens s.leaves ++ more) c.rest)
    (hmore : ∀ t ∈ more.head?, OpensItem t) :
    ∃ s' next, Finds snippet c s' next ∧ s'.unplaced = s.unplaced ∧ Layout more next.rest := by
  obtain ⟨pos, mid, h, hplaced⟩ := finds_placed (by decide) h
  obtain ⟨npos, mid₁, hname, h⟩ := finds_symbol "snippet name".toList h
  obtain ⟨mid₂, hmark, h⟩ := finds_mark h rfl rfl
  obtain ⟨e', next, he, heq, h⟩ := finds_expression s.expr h fun hm => by
    rcases hmore _ hm with h | h <;> cases h
  refine ⟨⟨s.name, e', pos⟩, next, hplaced (finds_commit.2 (hname.bind (hmark.bind ?_))), ?_, h⟩
  · exact he.bind (finds_pure.2 ⟨rfl, rfl⟩)
  · rw [Tree.Snippet.unplaced, Tree.Snippet.unplaced, heq]

theorem unlike_word {v w : Text} (hv : IsName v) (hne : v ≠ w) : Unlike w (.word v) :=
  ⟨hv, .inr ⟨v, .inl rfl, hne⟩⟩

theorem finds_item (i : Item) (hproper : i.Proper) (h : Layout (tokens i.leaves ++ more) c.rest)
    (hmore : ∀ t ∈ more.head?, OpensItem t) :
    ∃ i' next, Finds item c i' next ∧ i'.unplaced = i.unplaced ∧ Layout more next.rest := by
  cases i with
  | menu m =>
      obtain ⟨m', next, hf, hm, h⟩ := finds_menu m hproper h hmore
      refine ⟨.menu m', next, finds_orElse.2 (.inl (hf.bind (finds_pure.2 ⟨rfl, rfl⟩))), ?_, h⟩
      rw [Item.unplaced, Item.unplaced, hm]
  | snippet s =>
      have hmenu : Misses menu c := h.misses_placed (by decide) fun t ht => by
        obtain rfl := Option.mem_some.1 ht
        exact unlike_word (by decide) (by decide)
      obtain ⟨s', next, hf, hs, h⟩ := finds_snippet s h hmore
      refine ⟨.snippet s', next, finds_orElse.2 (.inr ⟨hmenu.bind, ?_⟩), ?_, h⟩
      · exact hf.bind (finds_pure.2 ⟨rfl, rfl⟩)
      · rw [Item.unplaced, Item.unplaced, hs]

theorem misses_item (h : Layout [] c.rest) : Misses item c := by
  refine misses_orElse.2 ⟨Misses.bind (h.misses_placed (by decide) ?_),
    Misses.bind (h.misses_placed (by decide) ?_)⟩
  all_goals exact fun _ ht => nomatch ht

/-- The token is the first one of a setting. -/
def OpensSetting (t : Token) : Prop := t = .word "shell".toList ∨ t = .word "echo".toList

theorem exists_opensSetting (s : Tree.Setting) :
    ∃ t ts, tokens s.leaves = t :: ts ∧ OpensSetting t := by
  cases s with
  | shell line => exact ⟨_, _, rfl, .inl rfl⟩
  | echo on pos => exact ⟨_, _, rfl, .inr rfl⟩

theorem finds_echoSetting {on : Bool} {pos : Position}
    (h : Layout (tokens (Tree.Setting.leaves (.echo on pos)) ++ more) c.rest) :
    ∃ pos' next, Finds echoSetting c (.echo on pos') next ∧ Layout more next.rest := by
  obtain ⟨pos', mid, h, hplaced⟩ := finds_placed (by decide) h
  cases on with
  | true =>
      obtain ⟨next, hf, h⟩ := finds_keyword (by decide) h
      refine ⟨pos', next, hplaced (finds_commit.2 (finds_orElse.2 (.inl ?_))), h⟩
      exact hf.bind (finds_pure.2 ⟨rfl, rfl⟩)
  | false =>
      have hon : Misses (keyword "on".toList) mid := h.misses_keyword (by decide) fun t ht => by
        obtain rfl := Option.mem_some.1 ht
        exact unlike_word (by decide) (by decide)
      obtain ⟨next, hf, h⟩ := finds_keyword (by decide) h
      refine ⟨pos', next, hplaced (finds_commit.2 (finds_orElse.2 (.inr ⟨hon.bind, ?_⟩))), h⟩
      exact hf.bind (finds_pure.2 ⟨rfl, rfl⟩)

theorem finds_setting (s : Tree.Setting) (h : Layout (tokens s.leaves ++ more) c.rest)
    (hmore : ∀ t ∈ more.head?, ∀ w, t ≠ .shellWord w) :
    ∃ s' next, Finds setting c s' next ∧ s'.unplaced = s.unplaced ∧ Layout more next.rest := by
  cases s with
  | shell line =>
      obtain ⟨line', next, hf, hline, h⟩ := finds_shellLine line h hmore
      refine ⟨.shell line', next, finds_orElse.2 (.inl (hf.bind (finds_pure.2 ⟨rfl, rfl⟩))), ?_, h⟩
      rw [Tree.Setting.unplaced, Tree.Setting.unplaced, hline]
  | echo on pos =>
      have hshell : Misses shellLine c := h.misses_placed (by decide) fun t ht => by
        obtain rfl := Option.mem_some.1 ht
        exact unlike_word (by decide) (by decide)
      obtain ⟨pos', next, hf, h⟩ := finds_echoSetting h
      exact ⟨.echo on pos', next, finds_orElse.2 (.inr ⟨hshell.bind, hf⟩), rfl, h⟩

theorem misses_setting (h : Layout toks c.rest) (hhead : ∀ t ∈ toks.head?, OpensItem t) :
    Misses setting c := by
  refine misses_orElse.2 ⟨Misses.bind (h.misses_placed (by decide) fun t ht => ?_),
    h.misses_placed (by decide) fun t ht => ?_⟩
  · rcases hhead t ht with rfl | rfl <;> exact unlike_word (by decide) (by decide)
  · rcases hhead t ht with rfl | rfl <;> exact unlike_word (by decide) (by decide)

theorem head?_items (items : List Item) :
    ∀ t ∈ (items.flatMap (fun i => tokens (Item.leaves i)) ++ []).head?, OpensItem t :=
  forall_head? (fun i _ => exists_opensItem i) fun _ ht => nomatch ht

/-- The settings of a file, up to its first item. -/
theorem finds_settings {settings : List Tree.Setting}
    (h : Layout (settings.flatMap (fun s => tokens s.leaves) ++ more) c.rest)
    (hmore : ∀ t ∈ more.head?, OpensItem t) :
    ∃ settings' next, Finds (many setting) c settings' next ∧
      settings'.map Tree.Setting.unplaced = settings.map Tree.Setting.unplaced ∧
      Layout more next.rest := by
  obtain ⟨settings', next, hrepeat, heq, h, -⟩ := repeats shortens_setting
    Tree.Setting.unplaced (fun _ _ => True)
    (fun s l _ c h _ => by
      obtain ⟨s', next, hf, hs, h⟩ := finds_setting s h <| by
        refine forall_head? (fun s' _ => ?_) fun t ht w => ?_
        · obtain ⟨t, ts, ht, hopens⟩ := exists_opensSetting s'
          exact ⟨t, ts, ht, fun w => by rcases hopens with rfl | rfl <;> exact nofun⟩
        · rcases hmore t ht with rfl | rfl <;> exact nofun
      exact ⟨s', next, hf, hs, h, trivial⟩)
    (fun c h _ => misses_setting h hmore) h trivial
  exact ⟨settings', next, hrepeat.finds_many, heq, h⟩

/-- The items of a file, up to its end. -/
theorem finds_items {items : List Item} (hitems : ∀ i ∈ items, i.Proper)
    (h : Layout (items.flatMap (fun i => tokens (Item.leaves i)) ++ []) c.rest) :
    ∃ items' next, Finds (many item) c items' next ∧
      items'.map Item.unplaced = items.map Item.unplaced ∧ Layout [] next.rest := by
  obtain ⟨items', next, hrepeat, heq, h, -⟩ := repeats shortens_item Item.unplaced
    (fun _ _ => True)
    (fun i l hl c h _ => by
      have hproper := hitems i (hl.subset (by simp))
      obtain ⟨i', next, hf, hi, h⟩ := finds_item i hproper h (head?_items l)
      exact ⟨i', next, hf, hi, h, trivial⟩)
    (fun c h _ => misses_item h) h trivial
  exact ⟨items', next, hrepeat.finds_many, heq, h⟩

theorem finds_file (f : Tree.File) (hproper : f.Proper) (h : Layout (tokens f.leaves) c.rest) :
    ∃ f' next, Finds file c f' next ∧ f'.unplaced = f.unplaced := by
  obtain ⟨settings, items⟩ := f
  obtain ⟨hne, hitems⟩ := hproper
  rw [Tree.File.leaves, tokens_append, tokens_flatMap, tokens_flatMap] at h
  rw [← List.append_nil (List.flatMap _ items)] at h
  obtain ⟨settings', mid, hfsettings, hsettings, h⟩ := finds_settings h (head?_items items)
  obtain ⟨items', mid₁, hfitems, heq, h⟩ := finds_items hitems h
  obtain ⟨g, rest, hskip, hrest⟩ := h.exists_skips fun _ ht => nomatch ht
  -- A layout of no tokens is a gap, behind which nothing is left.
  obtain rfl : rest = [] := by
    cases rest with
    | nil => rfl
    | cons d rest =>
        obtain ⟨t, ht, -⟩ := hrest d rfl
        cases ht
  have hne' : items' ≠ [] := by
    rintro rfl
    exact hne (List.map_eq_nil_iff.1 heq.symm)
  refine ⟨⟨settings', items'⟩, mid₁.past g, hfsettings.bind (hfitems.bind ?_), ?_⟩
  · rw [finds_skip_bind hskip, finds_rest_bind, hskip.rest_past]
    rw [if_neg (by simp [hne'])]
    exact finds_pure.2 ⟨rfl, rfl⟩
  · rw [Tree.File.unplaced, Tree.File.unplaced, hsettings, heq]

end Layout

/-- **Every layout of a tree that follows the grammar is parsed to that tree**, up to positions. -/
theorem Tree.File.parse_of_layout {f : File} {text : Text} (hproper : f.Proper)
    (h : Layout (tokens f.leaves) text) :
    ∃ f', parse text = .ok f' ∧ f'.unplaced = f.unplaced := by
  obtain ⟨f', next, ⟨notes, hf⟩, heq⟩ := Layout.finds_file (c := .start text) f hproper h
  refine ⟨f', ?_, heq⟩
  rw [parse, Rule.parse, hf]

end KeyMenu
