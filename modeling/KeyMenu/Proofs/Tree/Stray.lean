import KeyMenu.Proofs.Tree.Closure
import KeyMenu.Proofs.Tree.Layout
import KeyMenu.Proofs.Tree.Reading
import Mathlib

/-!
# Stray white space

White space other than a space, a tab and the two characters that end lines belongs to no gap, and
no word begins with it. Where a shell line goes on with such a character, reading stops for good,
without a value and without a fault of the grammar. This happens nowhere else.

* one equivalence for each way of putting rules together; `Rule.Chain` is the way of a repetition;
* `Rule.StraysOnly P r`: the rule stops for good only in front of a text with `P`, and
  `Rule.closed_straysOnly`: so does what is put together from such rules;
* `Text.StrayLine`: words of a shell line, and then white space at which no word begins;
* `Rule.shellLine_eq_strayBlank_iff`: a shell line stops for good in front of its keyword and such
  a line (`Text.BeginsStray`);
* `Rule.file_eq_strayBlank_iff`: a file does where a shell line is looked for that does
  (`Rule.ReachesShell`);
* `parse_eq_strayBlank`: the main theorem.
-/

namespace KeyMenu

/-! ### Stopping for good -/

namespace Rule

variable {α β : Type} {r s : Rule α} {f : α → Rule β} {c : Cursor}

theorem bind_eq_strayBlank_iff : (r >>= f) c = .strayBlank ↔
    r c = .strayBlank ∨ ∃ a mid, Finds r c a mid ∧ f a mid = .strayBlank := by
  rw [bind_apply]
  constructor
  · intro h
    cases hr : r c with
    | found a mid first =>
        simp only [hr, Outcome.andThen] at h
        cases hf : f a mid with
        | strayBlank => exact .inr ⟨a, mid, ⟨first, hr⟩, hf⟩
        | found _ _ _ | absent _ | failed _ => rw [hf] at h; cases h
    | strayBlank => exact .inl rfl
    | absent _ | failed _ => rw [hr] at h; cases h
  · rintro (hr | ⟨a, mid, ⟨first, hr⟩, hf⟩)
    · simp only [hr, Outcome.andThen]
    · simp only [hr, Outcome.andThen, hf, Outcome.after]

theorem orElse_eq_strayBlank_iff : (r <|> s) c = .strayBlank ↔
    r c = .strayBlank ∨ Misses r c ∧ s c = .strayBlank := by
  rw [orElse_apply]
  constructor
  · intro h
    cases hr : r c with
    | absent first =>
        cases hs : s c with
        | strayBlank => exact .inr ⟨⟨first, hr⟩, rfl⟩
        | found _ _ _ | absent _ | failed _ => rw [hr, hs] at h; cases h
    | strayBlank => exact .inl rfl
    | found _ _ _ | failed _ => rw [hr] at h; cases h
  · rintro (hr | ⟨⟨first, hr⟩, hs⟩)
    · simp only [hr]
    · simp only [hr, hs, Outcome.after]

theorem commit_eq_strayBlank_iff : commit r c = .strayBlank ↔ r c = .strayBlank := by
  rw [commit_apply]
  cases r c <;> simp

/-- A repetition stops for good where its rule does, at once or behind a value. -/
theorem many_eq_strayBlank_iff : many r c = .strayBlank ↔ r c = .strayBlank ∨
    ∃ a mid, Finds r c a mid ∧ mid.rest.length < c.rest.length ∧ many r mid = .strayBlank := by
  constructor
  · intro h
    cases hr : r c with
    | found a mid first =>
        rw [many, hr] at h
        by_cases hlt : mid.rest.length < c.rest.length
        · simp only [if_pos hlt] at h
          cases hmany : many r mid with
          | strayBlank => exact .inr ⟨a, mid, ⟨first, hr⟩, hlt, hmany⟩
          | found _ _ _ | absent _ | failed _ => rw [hmany] at h; cases h
        · simp only [if_neg hlt] at h
          cases h
    | strayBlank => exact .inl rfl
    | absent _ | failed _ => rw [many, hr] at h; cases h
  · rintro (hr | ⟨a, mid, ⟨first, hr⟩, hlt, hmany⟩)
    · rw [many, hr]
    · rw [many_of_found hr hlt, hmany]
      rfl

/-- From one cursor to another the rule finds values one after the other. -/
inductive Chain (r : Rule α) : Cursor → Cursor → Prop
  | refl (c : Cursor) : Chain r c c
  | step {c mid next : Cursor} {a : α} (hf : Finds r c a mid)
      (hlt : mid.rest.length < c.rest.length) (h : Chain r mid next) : Chain r c next

/-- A repetition stops for good where its rule does, behind any number of values. -/
theorem many_eq_strayBlank_iff_chain :
    many r c = .strayBlank ↔ ∃ d, Chain r c d ∧ r d = .strayBlank := by
  constructor
  · intro h
    induction hlength : c.rest.length using Nat.strongRecOn generalizing c with
    | _ length ih =>
      rcases many_eq_strayBlank_iff.1 h with h | ⟨a, mid, hf, hlt, hmany⟩
      · exact ⟨c, .refl c, h⟩
      · obtain ⟨d, hchain, hd⟩ := ih _ (hlength ▸ hlt) hmany rfl
        exact ⟨d, .step hf hlt hchain, hd⟩
  · rintro ⟨d, hchain, hd⟩
    induction hchain with
    | refl c => exact many_eq_strayBlank_iff.2 (.inl hd)
    | step hf hlt _ ih => exact many_eq_strayBlank_iff.2 (.inr ⟨_, _, hf, hlt, ih hd⟩)

end Rule

/-! ### In front of which texts -/

/-- Whatever ends in a text with `P` has `P` too. -/
def Text.Upward (P : Text → Prop) : Prop := ∀ s t : Text, s <:+ t → P s → P t

/-- A value is found further on in the text, or there is none; reading does not stop for good. -/
inductive Outcome.Onward (c : Cursor) {α : Type} : Outcome α → Prop
  | found {a : α} {next : Cursor} {notes : List Expectation} (h : next.rest <:+ c.rest) :
      Onward c (.found a next notes)
  | absent {notes : List Expectation} : Onward c (.absent notes)
  | failed {notes : List Expectation} : Onward c (.failed notes)

theorem Text.upward_false : Text.Upward fun _ => False := fun _ _ _ h => h

namespace Rule

/-- The rule takes text from the front, and stops for good only in front of a text with `P`. -/
structure StraysOnly (P : Text → Prop) {α : Type} (r : Rule α) : Prop where
  suffix : ∀ {c next : Cursor} {a : α}, Finds r c a next → next.rest <:+ c.rest
  strays : ∀ {c : Cursor}, r c = .strayBlank → P c.rest

variable {P : Text → Prop} {α β : Type} {r s : Rule α} {f : α → Rule β} {c : Cursor}

theorem StraysOnly.of_onward (h : ∀ c, (r c).Onward c) : StraysOnly P r where
  suffix := by
    rintro c next a ⟨notes, hf⟩
    have hc := h c
    rw [hf] at hc
    cases hc with
    | found hsuffix => exact hsuffix
  strays := by
    intro c hs
    have hc := h c
    rw [hs] at hc
    cases hc

theorem straysOnly_pure (a : α) : StraysOnly P (pure a : Rule α) :=
  .of_onward fun _ => .found (List.suffix_refl _)

theorem straysOnly_failure : StraysOnly P (failure : Rule α) :=
  .of_onward fun _ => .absent

theorem straysOnly_expect (what : Text) : StraysOnly P (expect what : Rule α) :=
  .of_onward fun _ => .absent

theorem straysOnly_unclosed (closing : Text) : StraysOnly P (unclosed closing : Rule α) :=
  .of_onward fun _ => .failed

theorem straysOnly_here : StraysOnly P here :=
  .of_onward fun _ => .found (List.suffix_refl _)

theorem straysOnly_rest : StraysOnly P rest :=
  .of_onward fun _ => .found (List.suffix_refl _)

theorem straysOnly_advance (taken : Text) : StraysOnly P (advance taken) :=
  .of_onward fun _ => .found (List.drop_suffix _ _)

theorem straysOnly_skip (gap : Gap) : StraysOnly P (skip gap) :=
  .of_onward fun _ => .found (List.drop_suffix _ _)

theorem StraysOnly.orElse (hr : StraysOnly P r) (hs : StraysOnly P s) :
    StraysOnly P (r <|> s) where
  suffix hf := by
    rcases finds_orElse.1 hf with hf | ⟨-, hf⟩
    · exact hr.suffix hf
    · exact hs.suffix hf
  strays h := by
    rcases orElse_eq_strayBlank_iff.1 h with h | ⟨-, h⟩
    · exact hr.strays h
    · exact hs.strays h

theorem StraysOnly.commit (hr : StraysOnly P r) : StraysOnly P (Rule.commit r) where
  suffix hf := hr.suffix (finds_commit.1 hf)
  strays h := hr.strays (commit_eq_strayBlank_iff.1 h)

/-- Behind a rule that never stops for good only what follows can do so. -/
theorem bind_eq_strayBlank_iff_of_never (hr : StraysOnly (fun _ => False) r) :
    (r >>= f) c = .strayBlank ↔ ∃ a mid, Finds r c a mid ∧ f a mid = .strayBlank := by
  rw [bind_eq_strayBlank_iff]
  exact or_iff_right fun h => hr.strays h

/-- In front of rules that never stop for good only what comes first can do so. -/
theorem bind_eq_strayBlank_iff_of_never_next (hf : ∀ a, StraysOnly (fun _ => False) (f a)) :
    (r >>= f) c = .strayBlank ↔ r c = .strayBlank := by
  rw [bind_eq_strayBlank_iff]
  refine or_iff_left ?_
  rintro ⟨a, mid, -, h⟩
  exact (hf a).strays h

theorem orElse_eq_strayBlank_iff_of_never (hs : StraysOnly (fun _ => False) s) :
    (r <|> s) c = .strayBlank ↔ r c = .strayBlank := by
  rw [orElse_eq_strayBlank_iff]
  exact or_iff_left fun h => hs.strays h.2

section

variable (hP : Text.Upward P)
include hP

theorem StraysOnly.bind (hr : StraysOnly P r) (hf : ∀ a, StraysOnly P (f a)) :
    StraysOnly P (r >>= f) where
  suffix h := by
    obtain ⟨a, mid, hfirst, hsecond⟩ := finds_bind.1 h
    exact ((hf a).suffix hsecond).trans (hr.suffix hfirst)
  strays h := by
    rcases bind_eq_strayBlank_iff.1 h with h | ⟨a, mid, hfirst, hsecond⟩
    · exact hr.strays h
    · exact hP _ _ (hr.suffix hfirst) ((hf a).strays hsecond)

theorem StraysOnly.many (hr : StraysOnly P r) : StraysOnly P (many r) where
  suffix := by
    intro c next values hf
    induction hlength : c.rest.length using Nat.strongRecOn generalizing c values with
    | _ length ih =>
        rcases cases_of_finds_many hf with
          ⟨-, rfl, -⟩ | ⟨a, mid, hfirst, ⟨rfl, -⟩ | ⟨hlt, more, -, hmore⟩⟩
        · exact List.suffix_refl _
        · exact hr.suffix hfirst
        · exact (ih _ (hlength ▸ hlt) hmore rfl).trans (hr.suffix hfirst)
  strays := by
    intro c h
    induction hlength : c.rest.length using Nat.strongRecOn generalizing c with
    | _ length ih =>
        rcases many_eq_strayBlank_iff.1 h with h | ⟨a, mid, hf, hlt, hmany⟩
        · exact hr.strays h
        · exact hP _ _ (hr.suffix hf) (ih _ (hlength ▸ hlt) hmany rfl)

/-! ### Tokens -/

theorem straysOnly_mark (gap : Gap) (token : Char) : StraysOnly P (mark gap token) := by
  refine (straysOnly_skip gap).bind hP fun _ => straysOnly_rest.bind hP fun text => ?_
  split
  · exact straysOnly_advance _
  · exact straysOnly_expect _

theorem straysOnly_keyword (word : Text) : StraysOnly P (keyword word) := by
  refine (straysOnly_skip _).bind hP fun _ => straysOnly_rest.bind hP fun text => ?_
  split
  · exact straysOnly_advance _
  · exact straysOnly_expect _

theorem straysOnly_symbol (what : Text) : StraysOnly P (symbol what) := by
  refine (straysOnly_skip _).bind hP fun _ => straysOnly_here.bind hP fun pos => ?_
  refine straysOnly_rest.bind hP fun text => ?_
  dsimp only
  split
  · exact straysOnly_expect _
  · exact (straysOnly_advance _).bind hP fun _ => straysOnly_pure _

theorem straysOnly_stringHere : StraysOnly P stringHere := by
  refine straysOnly_rest.bind hP fun text => ?_
  have htaken (taken value : Text) :
      StraysOnly P (do advance taken; return value : Rule Text) :=
    (straysOnly_advance taken).bind hP fun _ => straysOnly_pure value
  split
  · split
    · exact htaken _ _
    · exact straysOnly_unclosed _
  · split
    · split
      · exact htaken _ _
      · exact straysOnly_unclosed _
    · exact straysOnly_failure

theorem straysOnly_string : StraysOnly P string := by
  refine (straysOnly_skip _).bind hP fun _ => straysOnly_here.bind hP fun pos => ?_
  exact ((straysOnly_stringHere hP).orElse (straysOnly_expect _)).bind hP fun _ => straysOnly_pure _

theorem straysOnly_key : StraysOnly P key := by
  refine (straysOnly_skip _).bind hP fun _ => .of_onward fun c => ?_
  dsimp only
  split
  · exact .absent
  · split
    · refine .found ?_
      simp only [Cursor.past, List.drop_drop]
      exact List.drop_suffix _ _
    · split <;> exact .absent

omit hP in
theorem straysOnly_referenceHere : StraysOnly P referenceHere := by
  refine .of_onward fun c => ?_
  rw [referenceHere]
  split
  · dsimp only
    split
    · exact .failed
    · exact .found (List.drop_suffix _ _)
  · exact .absent

theorem closed_straysOnly : Closed (@StraysOnly P) where
  skip := straysOnly_skip
  here := straysOnly_here
  rest := straysOnly_rest
  expect := straysOnly_expect
  mark := straysOnly_mark hP
  keyword := straysOnly_keyword hP
  symbol := straysOnly_symbol hP
  string := straysOnly_string hP
  key := straysOnly_key hP
  referenceHere := straysOnly_referenceHere
  pure := straysOnly_pure
  failure := straysOnly_failure
  bind := .bind hP
  orElse := .orElse
  commit := .commit
  many := .many hP

end

/-- Without shell lines nothing in the grammar stops for good. -/
theorem closed_never : Closed (@StraysOnly fun _ => False) := closed_straysOnly Text.upward_false

end Rule

/-! ### Shell lines -/

/-- Words of a shell line with gaps before them, and then white space at which no word begins and
no line ends. -/
inductive Text.StrayLine : Text → Prop
  | blank {g more : Text} {d : Char} (hg : Gap.sameLine.Fills (d :: more) g)
      (hblank : isBlank d = true) (hspace : Gap.anyLine.isSpace d = false) :
      StrayLine (g ++ d :: more)
  | word {g v s more : Text} (hg : Gap.sameLine.Fills (s ++ more) g)
      (hword : Rule.WordAt v s more) (h : StrayLine more) : StrayLine (g ++ (s ++ more))

namespace Rule

variable {α : Type} {gap : Gap} {c next : Cursor} {g rest : Text}

theorem skip_bind_eq_strayBlank_iff (h : c.Skips gap g rest) {f : Unit → Rule α} :
    (skip gap >>= f) c = .strayBlank ↔ f () (c.past g) = .strayBlank := by
  rw [bind_eq_strayBlank_iff]
  simp only [finds_skip h]
  constructor
  · rintro (hskip | ⟨u, mid, rfl, hf⟩)
    · cases hskip
    · exact hf
  · exact fun hf => .inr ⟨(), _, rfl, hf⟩

theorem rest_bind_eq_strayBlank_iff {f : Text → Rule α} :
    (Rule.rest >>= f) c = .strayBlank ↔ f c.rest c = .strayBlank := by
  rw [bind_eq_strayBlank_iff]
  simp [Rule.rest]

theorem here_bind_eq_strayBlank_iff {f : Position → Rule α} :
    (here >>= f) c = .strayBlank ↔ f c.pos c = .strayBlank := by
  rw [bind_eq_strayBlank_iff]
  simp [here]

theorem stringHere_ne_strayBlank : stringHere c ≠ .strayBlank :=
  (straysOnly_stringHere Text.upward_false).strays

/-- Behind the gap stands white space that neither begins a word nor ends the line. -/
theorem shellWord_eq_strayBlank_iff (h : c.Skips .sameLine g rest) :
    shellWord c = .strayBlank ↔
      ∃ d ∈ rest.head?, isBlank d = true ∧ Gap.anyLine.isSpace d = false := by
  rw [shellWord, skip_bind_eq_strayBlank_iff h, rest_bind_eq_strayBlank_iff, h.rest_past]
  split
  · constructor
    · intro hs
      cases hs
    · rintro ⟨d, hd, -⟩
      cases hd
  · rename_i d text
    have hopen : ¬ (d = ' ' ∨ d = '\t') := by
      have hspace := (Bool.or_eq_false_iff.1 h.2.2).1
      simpa [Gap.isSpace] using hspace
    have hspace : Gap.anyLine.isSpace d = true ↔ d = '\r' ∨ d = '\n' := by
      simp only [Gap.isSpace, Bool.or_eq_true, beq_iff_eq, or_assoc]
      rw [← or_assoc, or_iff_right hopen]
    simp only [List.head?_cons, Option.mem_def, Option.some.injEq, exists_eq_left']
    split
    · rename_i hend
      have htrue : Gap.anyLine.isSpace d = true := hspace.2 (by simpa using hend)
      constructor
      · intro hs
        cases hs
      · rintro ⟨-, hfalse⟩
        rw [htrue] at hfalse
        cases hfalse
    · rename_i hend
      have hfalse : Gap.anyLine.isSpace d = false :=
        Bool.eq_false_iff.2 fun htrue => hend (by simpa using hspace.1 htrue)
      rw [orElse_eq_strayBlank_iff, misses_stringHere, h.rest_past]
      simp only [stringHere_ne_strayBlank, false_or, hfalse, and_true]
      cases hblank : isBlank d with
      | true =>
          -- white space begins no string, and there is no word up to the next white space
          refine iff_of_true ⟨⟨?_, ?_⟩, ?_⟩ rfl
          · intro hquote
            cases hquote
            exact absurd hblank (by decide)
          · refine Option.eq_none_iff_forall_ne_some.2 fun opening ho => ?_
            cases (Text.protectedOpening_eq_some_iff.1 ho).1
            exact absurd hblank (by decide)
          · simp [hblank, strayBlank]
      | false =>
          refine iff_of_false ?_ Bool.false_ne_true
          rintro ⟨-, hs⟩
          simp [hblank, bind_eq_strayBlank_iff, advance, pure_apply] at hs

/-- Neither a gap nor a comment begins where a word does. -/
theorem WordAt.not_opens {v s more : Text} (h : WordAt v s more) :
    Gap.sameLine.opens (s ++ more) = false := by
  obtain ⟨d, t, rfl, hd⟩ :=
    @Tree.Token.Solid.exists_head (.shellWord v) s trivial (h.imp id And.left)
  rw [Gap.opens_cons, Bool.or_eq_false_iff] at hd
  rw [List.cons_append, Gap.opens_cons, Bool.or_eq_false_iff]
  refine ⟨Bool.eq_false_iff.2 fun hspace => ?_, hd.2⟩
  rw [Gap.isSpace_anyLine_of_isSpace hspace] at hd
  cases hd.1

/-- Nor does a gap begin with white space that belongs to none. -/
theorem not_opens_of_stray {d : Char} (hblank : isBlank d = true)
    (hspace : Gap.anyLine.isSpace d = false) (more : Text) :
    Gap.sameLine.opens (d :: more) = false := by
  rw [Gap.opens_cons, Bool.or_eq_false_iff]
  refine ⟨Bool.eq_false_iff.2 fun hs => ?_, beq_eq_false_iff_ne.2 ?_⟩
  · rw [Gap.isSpace_anyLine_of_isSpace hs] at hspace
    cases hspace
  · rintro rfl
    exact absurd hblank (by decide)

/-- Words are read up to white space at which none begins. -/
theorem many_shellWord_of_strayLine {line : Text} (h : line.StrayLine) :
    ∀ c : Cursor, c.rest = line → many shellWord c = .strayBlank := by
  induction h with
  | @blank g more d hg hblank hspace =>
      intro c hc
      have hskip : c.Skips .sameLine g (d :: more) :=
        ⟨hc, hg, not_opens_of_stray hblank hspace more⟩
      exact many_eq_strayBlank_iff.2
        (.inl ((shellWord_eq_strayBlank_iff hskip).2 ⟨d, rfl, hblank, hspace⟩))
  | @word g v s more hg hword _ ih =>
      intro c hc
      have hskip : c.Skips .sameLine g (s ++ more) := ⟨hc, hg, hword.not_opens⟩
      have hfinds := (finds_shellWord hskip).2 ⟨s, more, rfl, hword, rfl⟩
      refine many_eq_strayBlank_iff.2 (.inr ⟨v, _, hfinds, shortens_shellWord _ _ _ hfinds, ?_⟩)
      exact ih _ (Cursor.rest_past hskip.rest_past)

/-- Where reading words stops for good, the line has words and then such white space. -/
theorem strayLine_of_many_shellWord (h : many shellWord c = .strayBlank) :
    c.rest.StrayLine := by
  induction hlength : c.rest.length using Nat.strongRecOn generalizing c with
  | _ length ih =>
    obtain ⟨g, rest, hskip⟩ := c.exists_skips .sameLine
    rcases many_eq_strayBlank_iff.1 h with hstray | ⟨v, mid, hfinds, hlt, hmany⟩
    · obtain ⟨d, hd, hblank, hspace⟩ := (shellWord_eq_strayBlank_iff hskip).1 hstray
      obtain ⟨more, rfl⟩ := List.head?_eq_some_iff.1 (Option.mem_def.1 hd)
      rw [hskip.1]
      exact .blank hskip.2.1 hblank hspace
    · have hmore := ih _ (hlength ▸ hlt) hmany rfl
      obtain ⟨s, more, rfl, hword, rfl⟩ := (finds_shellWord hskip).1 hfinds
      rw [Cursor.rest_past hskip.rest_past] at hmore
      rw [hskip.1]
      exact .word hskip.2.1 hword hmore

/-- The words of a shell line go wrong exactly in front of a line that does. -/
theorem shellWords_eq_strayBlank_iff : shellWords c = .strayBlank ↔ c.rest.StrayLine := by
  constructor
  · intro h
    rcases bind_eq_strayBlank_iff.1 h with h | ⟨words, mid, -, h⟩
    · exact strayLine_of_many_shellWord h
    · split at h <;> cases h
  · exact fun h => bind_eq_strayBlank_iff.2 (.inl (many_shellWord_of_strayLine h c rfl))

end Rule

/-- The text begins with the keyword of a shell line, and the line goes wrong. -/
def Text.BeginsStray (t : Text) : Prop :=
  ∃ g line, t = g ++ ("shell".toList ++ line) ∧ Gap.anyLine.Fills ("shell".toList ++ line) g ∧
    (∀ d ∈ line.head?, isSymbolChar d = false) ∧ line.StrayLine

/-- Somewhere in the text stands a shell line that goes wrong. -/
def Text.HasStrayLine (t : Text) : Prop := ∃ s : Text, s <:+ t ∧ s.BeginsStray

theorem Text.upward_hasStrayLine : Text.Upward Text.HasStrayLine := by
  rintro s t hst ⟨u, hus, hu⟩
  exact ⟨u, hus.trans hst, hu⟩

namespace Rule

variable {c next : Cursor}

/-- A shell line goes wrong exactly where its keyword stands in front of words that do. -/
theorem shellLine_eq_strayBlank_iff : shellLine c = .strayBlank ↔ c.rest.BeginsStray := by
  have hskip {g rest : Text} (h : c.Skips .anyLine g rest) :
      shellLine c = .strayBlank ↔ ∃ line, rest = "shell".toList ++ line ∧
        (∀ d ∈ line.head?, isSymbolChar d = false) ∧ line.StrayLine := by
    rw [shellLine, skip_bind_eq_strayBlank_iff h, here_bind_eq_strayBlank_iff,
      bind_eq_strayBlank_iff_of_never (closed_never.keyword _)]
    simp only [finds_keyword h.again, Cursor.past_nil]
    constructor
    · rintro ⟨u, mid, ⟨line, rfl, hline, rfl⟩, hwords⟩
      refine ⟨line, rfl, hline, ?_⟩
      rw [bind_eq_strayBlank_iff_of_never_next fun _ => closed_never.pure _] at hwords
      rwa [shellWords_eq_strayBlank_iff, Cursor.rest_past h.rest_past] at hwords
    · rintro ⟨line, rfl, hline, hstray⟩
      refine ⟨(), _, ⟨line, rfl, hline, rfl⟩, bind_eq_strayBlank_iff.2 (.inl ?_)⟩
      rwa [shellWords_eq_strayBlank_iff, Cursor.rest_past h.rest_past]
  constructor
  · intro h
    obtain ⟨g, rest, hg⟩ := c.exists_skips .anyLine
    obtain ⟨line, rfl, hline, hstray⟩ := (hskip hg).1 h
    exact ⟨g, line, hg.1, hg.2.1, hline, hstray⟩
  · rintro ⟨g, line, heq, hfill, hline, hstray⟩
    exact (hskip ⟨heq, hfill, rfl⟩).2 ⟨line, rfl, hline, hstray⟩

/-- Words are taken from the front of the text. -/
theorem suffix_of_finds_shellWords {shell : Shell} (h : Finds shellWords c shell next) :
    next.rest <:+ c.rest := by
  have hwords := finds_shellWords.1 h
  generalize shell.words = words at hwords
  clear h
  induction hwords with
  | done _ => exact List.suffix_refl _
  | @again c mid next v values hf _ _ ih =>
      obtain ⟨g, rest, hskip⟩ := c.exists_skips .sameLine
      obtain ⟨s, more, -, -, rfl⟩ := (finds_shellWord hskip).1 hf
      refine ih.trans ?_
      simp only [Cursor.past, List.drop_drop]
      exact List.drop_suffix _ _

theorem straysOnly_shellLine : StraysOnly Text.HasStrayLine shellLine where
  suffix hf := by
    have hQ : Closed (@StraysOnly fun _ => True) := closed_straysOnly fun _ _ _ _ => trivial
    have hwords : StraysOnly (fun _ => True) shellWords :=
      ⟨suffix_of_finds_shellWords, fun _ => trivial⟩
    have hline : StraysOnly (fun _ => True) shellLine :=
      hQ.bind (hQ.skip _) fun _ => hQ.bind hQ.here fun _ =>
        hQ.bind (hQ.keyword _) fun _ => hQ.map hwords _
    exact hline.suffix hf
  strays h := ⟨_, List.suffix_refl _, shellLine_eq_strayBlank_iff.1 h⟩

/-! ### Where a file has shell lines -/

/-- The opening of a menu: its keyword, title and name, and the brace. -/
def menuOpening : Rule Unit := do
  skip .anyLine
  keyword "menu".toList
  let _ ← optional string
  let _ ← symbol "menu name".toList
  mark .anyLine '\x7b'

/-- The opening of a command block: its keyword and the brace. -/
def blockOpening : Rule Unit := do
  skip .anyLine
  keyword "cmd".toList
  mark .anyLine '\x7b'

/-- A shell line is looked for at `d` when a file is read from `c`: behind settings, or behind
clauses of a command block, in a menu behind other items. -/
inductive ReachesShell (c : Cursor) : Cursor → Prop
  | setting {d : Cursor} (hsettings : Chain setting c d) : ReachesShell c d
  | clause {settings : List Tree.Setting} {k : Text × Position} {c₁ c₂ c₃ c₄ c₅ c₆ d : Cursor}
      (hsettings : Finds (many Rule.setting) c settings c₁) (hitems : Chain item c₁ c₂)
      (hmenu : Finds menuOpening c₂ () c₃) (hentries : Chain entry c₃ c₄)
      (hkey : Finds key c₄ k c₅) (hblock : Finds blockOpening c₅ () c₆)
      (hclauses : Chain Rule.clause c₆ d) : ReachesShell c d

variable {α β : Type} {r : Rule α}

/-- A repetition with something behind it that never stops for good. -/
theorem many_bind_eq_strayBlank_iff {f : List α → Rule β}
    (hf : ∀ values, StraysOnly (fun _ => False) (f values)) :
    ((many r : Rule (List α)) >>= f) c = .strayBlank ↔ ∃ d, Chain r c d ∧ r d = .strayBlank :=
  (bind_eq_strayBlank_iff_of_never_next hf).trans many_eq_strayBlank_iff_chain

/-- Like `many_eq_strayBlank_iff_chain`, where there must be a value. -/
theorem oneOrMore_eq_strayBlank_iff_chain (hr : Shortens r) :
    oneOrMore r c = .strayBlank ↔ ∃ d, Chain r c d ∧ r d = .strayBlank := by
  constructor
  · intro h
    rcases bind_eq_strayBlank_iff.1 h with h | ⟨a, mid, hf, h⟩
    · exact ⟨c, .refl c, h⟩
    · obtain ⟨d, hchain, hd⟩ := (many_bind_eq_strayBlank_iff fun _ => closed_never.pure _).1 h
      exact ⟨d, .step hf (hr _ _ _ hf) hchain, hd⟩
  · rintro ⟨d, hchain, hd⟩
    cases hchain with
    | refl => exact bind_eq_strayBlank_iff.2 (.inl hd)
    | step hf _ h =>
        refine bind_eq_strayBlank_iff.2 (.inr ⟨_, _, hf, ?_⟩)
        exact (many_bind_eq_strayBlank_iff fun _ => closed_never.pure _).2 ⟨d, h, hd⟩

/-- In front of a shell line neither of the other clauses begins. -/
theorem clause_eq_strayBlank_iff : clause c = .strayBlank ↔ shellLine c = .strayBlank := by
  have hset := closed_never.listClause (closed_never.symbol "setting name".toList) "set".toList
    Tree.Clause.set
  have hvars := closed_never.listClause closed_never.variableDefinition "vars".toList
    Tree.Clause.vars
  constructor
  · intro h
    rcases orElse_eq_strayBlank_iff.1 h with h | ⟨-, h⟩
    · exact (hset.strays h).elim
    rcases orElse_eq_strayBlank_iff.1 h with h | ⟨-, h⟩
    · exact (hvars.strays h).elim
    exact (bind_eq_strayBlank_iff_of_never_next fun _ => closed_never.pure _).1 h
  · intro h
    obtain ⟨g, line, heq, hfill, -, -⟩ := shellLine_eq_strayBlank_iff.1 h
    have hskip : c.Skips .anyLine g ("shell".toList ++ line) := ⟨heq, hfill, rfl⟩
    have hmiss {word : Text} {f : Unit → Rule Tree.Clause}
        (hword : ∀ more, "shell".toList ++ line ≠ word ++ more) :
        Misses (keyword word >>= f) c :=
      ((misses_keyword hskip).2 fun more hmore => absurd hmore (hword more)).bind
    refine orElse_eq_strayBlank_iff.2 (.inr ⟨hmiss (by simp), ?_⟩)
    refine orElse_eq_strayBlank_iff.2 (.inr ⟨hmiss (by simp), ?_⟩)
    exact bind_eq_strayBlank_iff.2 (.inl h)

theorem commandBlock_eq_strayBlank_iff : commandBlock c = .strayBlank ↔
    ∃ mid, Finds blockOpening c () mid ∧ ∃ d, Chain clause mid d ∧ shellLine d = .strayBlank := by
  have hend (pos : Position) (clauses : List Tree.Clause) :
      StraysOnly (fun _ => False) (do
        let command ← quickCommand
        mark .anyLine '\x7d'
        return (⟨clauses, command, pos⟩ : Tree.CommandBlock)) :=
    closed_never.bind closed_never.quickCommand fun _ =>
      closed_never.bind (closed_never.mark _ _) fun _ => closed_never.pure _
  simp only [← clause_eq_strayBlank_iff]
  constructor
  · intro h
    obtain ⟨_, c₁, hskip, h⟩ := (bind_eq_strayBlank_iff_of_never (closed_never.skip _)).1 h
    obtain ⟨pos, c₂, hhere, h⟩ := (bind_eq_strayBlank_iff_of_never closed_never.here).1 h
    obtain ⟨-, rfl⟩ := finds_here.1 hhere
    obtain ⟨_, c₃, hword, h⟩ := (bind_eq_strayBlank_iff_of_never (closed_never.keyword _)).1 h
    obtain ⟨_, c₄, hbrace, h⟩ := (bind_eq_strayBlank_iff_of_never (closed_never.mark _ _)).1 h
    exact ⟨c₄, hskip.bind (hword.bind hbrace),
      (many_bind_eq_strayBlank_iff (hend pos)).1 (commit_eq_strayBlank_iff.1 h)⟩
  · rintro ⟨mid, hopening, hclauses⟩
    obtain ⟨_, c₁, hskip, hopening⟩ := finds_bind.1 hopening
    obtain ⟨_, c₂, hword, hbrace⟩ := finds_bind.1 hopening
    refine bind_eq_strayBlank_iff.2 (.inr ⟨_, _, hskip, ?_⟩)
    refine bind_eq_strayBlank_iff.2 (.inr ⟨_, _, finds_here.2 ⟨rfl, rfl⟩, ?_⟩)
    refine bind_eq_strayBlank_iff.2 (.inr ⟨_, _, hword, ?_⟩)
    refine bind_eq_strayBlank_iff.2 (.inr ⟨_, _, hbrace, ?_⟩)
    exact commit_eq_strayBlank_iff.2 ((many_bind_eq_strayBlank_iff (hend _)).2 hclauses)

theorem entry_eq_strayBlank_iff : entry c = .strayBlank ↔
    ∃ k mid, Finds key c k mid ∧ commandBlock mid = .strayBlank := by
  have hvalue {mid : Cursor} : entryValue mid = .strayBlank ↔ commandBlock mid = .strayBlank := by
    refine commit_eq_strayBlank_iff.trans (Iff.trans (orElse_eq_strayBlank_iff_of_never ?_) ?_)
    · exact closed_never.orElse (closed_never.map closed_never.quickCommand _)
        (closed_never.map (closed_never.symbol _) _)
    · exact bind_eq_strayBlank_iff_of_never_next fun _ => closed_never.pure _
  refine (bind_eq_strayBlank_iff_of_never closed_never.key).trans ?_
  refine exists_congr fun k => exists_congr fun mid => and_congr_right fun _ => ?_
  exact (bind_eq_strayBlank_iff_of_never_next fun _ => closed_never.pure _).trans hvalue

theorem menu_eq_strayBlank_iff : menu c = .strayBlank ↔
    ∃ mid, Finds menuOpening c () mid ∧ ∃ d, Chain entry mid d ∧ entry d = .strayBlank := by
  have hend {f : List Tree.Entry → Tree.Menu} (entries : List Tree.Entry) :
      StraysOnly (fun _ => False) (do mark .anyLine '\x7d'; return f entries) :=
    closed_never.bind (closed_never.mark _ _) fun _ => closed_never.pure _
  have hentries {f : List Tree.Entry → Tree.Menu} {mid : Cursor} :
      (do let entries ← oneOrMore entry; mark .anyLine '\x7d'; return f entries : Rule Tree.Menu)
          mid = .strayBlank ↔ ∃ d, Chain entry mid d ∧ entry d = .strayBlank :=
    (bind_eq_strayBlank_iff_of_never_next hend).trans
      (oneOrMore_eq_strayBlank_iff_chain shortens_entry)
  constructor
  · intro h
    obtain ⟨_, c₁, hskip, h⟩ := (bind_eq_strayBlank_iff_of_never (closed_never.skip _)).1 h
    obtain ⟨pos, c₂, hhere, h⟩ := (bind_eq_strayBlank_iff_of_never closed_never.here).1 h
    obtain ⟨-, rfl⟩ := finds_here.1 hhere
    obtain ⟨_, c₃, hword, h⟩ := (bind_eq_strayBlank_iff_of_never (closed_never.keyword _)).1 h
    have h := commit_eq_strayBlank_iff.1 h
    obtain ⟨title, c₄, htitle, h⟩ :=
      (bind_eq_strayBlank_iff_of_never (closed_never.optional closed_never.string)).1 h
    obtain ⟨name, c₅, hname, h⟩ := (bind_eq_strayBlank_iff_of_never (closed_never.symbol _)).1 h
    obtain ⟨_, c₆, hbrace, h⟩ := (bind_eq_strayBlank_iff_of_never (closed_never.mark _ _)).1 h
    exact ⟨c₆, hskip.bind (hword.bind (htitle.bind (hname.bind hbrace))), hentries.1 h⟩
  · rintro ⟨mid, hopening, h⟩
    obtain ⟨_, c₁, hskip, hopening⟩ := finds_bind.1 hopening
    obtain ⟨_, c₂, hword, hopening⟩ := finds_bind.1 hopening
    obtain ⟨title, c₃, htitle, hopening⟩ := finds_bind.1 hopening
    obtain ⟨name, c₄, hname, hbrace⟩ := finds_bind.1 hopening
    refine bind_eq_strayBlank_iff.2 (.inr ⟨_, _, hskip, ?_⟩)
    refine bind_eq_strayBlank_iff.2 (.inr ⟨_, _, finds_here.2 ⟨rfl, rfl⟩, ?_⟩)
    refine bind_eq_strayBlank_iff.2 (.inr ⟨_, _, hword, commit_eq_strayBlank_iff.2 ?_⟩)
    refine bind_eq_strayBlank_iff.2 (.inr ⟨_, _, htitle, ?_⟩)
    refine bind_eq_strayBlank_iff.2 (.inr ⟨_, _, hname, ?_⟩)
    refine bind_eq_strayBlank_iff.2 (.inr ⟨_, _, hbrace, ?_⟩)
    exact hentries.2 h

/-- Reading a file stops for good exactly where a shell line goes wrong that is looked for. -/
theorem file_eq_strayBlank_iff : file c = .strayBlank ↔
    ∃ d, ReachesShell c d ∧ d.rest.BeginsStray := by
  have hsetting {d : Cursor} : setting d = .strayBlank ↔ d.rest.BeginsStray :=
    (orElse_eq_strayBlank_iff_of_never closed_never.echoSetting).trans
      ((bind_eq_strayBlank_iff_of_never_next fun _ => closed_never.pure _).trans
        shellLine_eq_strayBlank_iff)
  have hitem {d : Cursor} : item d = .strayBlank ↔ menu d = .strayBlank :=
    (orElse_eq_strayBlank_iff_of_never (closed_never.map closed_never.snippet _)).trans
      (bind_eq_strayBlank_iff_of_never_next fun _ => closed_never.pure _)
  have hitems {settings : List Tree.Setting} {mid : Cursor} :
      (do
        let items ← many item
        skip .anyLine
        if items.isEmpty || !(← rest).isEmpty then commit failure
        else return (⟨settings, items⟩ : Tree.File) : Rule Tree.File) mid = .strayBlank ↔
          ∃ d, Chain item mid d ∧ item d = .strayBlank := by
    refine many_bind_eq_strayBlank_iff fun items => ?_
    refine closed_never.bind (closed_never.skip _) fun _ => ?_
    refine closed_never.bind closed_never.rest fun text => ?_
    split
    · exact closed_never.commit closed_never.failure
    · exact closed_never.pure _
  constructor
  · intro h
    rcases bind_eq_strayBlank_iff.1 h with h | ⟨settings, c₁, hsettings, h⟩
    · obtain ⟨d, hchain, hd⟩ := many_eq_strayBlank_iff_chain.1 h
      exact ⟨d, .setting hchain, hsetting.1 hd⟩
    · obtain ⟨c₂, hchain, hd⟩ := hitems.1 h
      obtain ⟨c₃, hmenu, c₄, hentries, hd⟩ := menu_eq_strayBlank_iff.1 (hitem.1 hd)
      obtain ⟨k, c₅, hkey, hd⟩ := entry_eq_strayBlank_iff.1 hd
      obtain ⟨c₆, hblock, d, hclauses, hd⟩ := commandBlock_eq_strayBlank_iff.1 hd
      exact ⟨d, .clause hsettings hchain hmenu hentries hkey hblock hclauses,
        shellLine_eq_strayBlank_iff.1 hd⟩
  · rintro ⟨d, hreaches, hd⟩
    cases hreaches with
    | setting hsettings =>
        refine bind_eq_strayBlank_iff.2 (.inl ?_)
        exact many_eq_strayBlank_iff_chain.2 ⟨d, hsettings, hsetting.2 hd⟩
    | clause hsettings hchain hmenu hentries hkey hblock hclauses =>
        have hblock := commandBlock_eq_strayBlank_iff.2
          ⟨_, hblock, d, hclauses, shellLine_eq_strayBlank_iff.2 hd⟩
        have hentry := entry_eq_strayBlank_iff.2 ⟨_, _, hkey, hblock⟩
        have hmenu := menu_eq_strayBlank_iff.2 ⟨_, hmenu, _, hentries, hentry⟩
        exact bind_eq_strayBlank_iff.2
          (.inr ⟨_, _, hsettings, hitems.2 ⟨_, hchain, hitem.2 hmenu⟩⟩)

end Rule

/-! ### Whole texts -/

theorem Rule.parse_eq_strayBlank_iff {α : Type} {r : Rule α} {text : Text} :
    r.parse text = .error .strayBlank ↔ r (.start text) = .strayBlank := by
  rw [Rule.parse]
  cases r (.start text) <;> simp

/-- In a shell line that goes wrong there is white space that is no gap. -/
theorem Text.StrayLine.exists_mem {line : Text} (h : line.StrayLine) :
    ∃ d ∈ line, isBlank d = true ∧ Gap.anyLine.isSpace d = false := by
  induction h with
  | @blank g more d _ hblank hspace => exact ⟨d, by simp, hblank, hspace⟩
  | word _ _ _ ih =>
      obtain ⟨d, hd, hstray⟩ := ih
      exact ⟨d, by simp [hd], hstray⟩

theorem Tree.Expression.parse_ne_strayBlank (text : Text) :
    Tree.Expression.parse text ≠ .error .strayBlank := by
  rw [Tree.Expression.parse, Ne, Rule.parse_eq_strayBlank_iff]
  exact (Rule.closed_never.bind Rule.closed_never.expression fun _ =>
    Rule.closed_never.bind Rule.closed_never.finish fun _ => Rule.closed_never.pure _).strays

theorem Shell.parse_eq_strayBlank_iff {text : Text} :
    Shell.parse text = .error .strayBlank ↔ text.strip.StrayLine := by
  rw [Shell.parse, Rule.parse_eq_strayBlank_iff, Rule.bind_eq_strayBlank_iff_of_never_next,
    Rule.shellWords_eq_strayBlank_iff]
  · rfl
  · exact fun _ =>
      Rule.closed_never.bind Rule.closed_never.finish fun _ => Rule.closed_never.pure _

theorem Tree.File.hasStrayLine_of_parse {text : Text}
    (h : Tree.File.parse text = .error .strayBlank) : text.HasStrayLine :=
  ((Rule.closed_straysOnly Text.upward_hasStrayLine).file Rule.straysOnly_shellLine).strays
    (Rule.parse_eq_strayBlank_iff.1 h)

/-- Texts without other white space than spaces, tabs and line ends are read or refused by the
grammar. -/
theorem parse_ne_strayBlank_of_plain {text : Text}
    (h : ∀ d ∈ text, isBlank d = true → Gap.anyLine.isSpace d = true) :
    Shell.parse text ≠ .error .strayBlank ∧ Tree.File.parse text ≠ .error .strayBlank := by
  have hplain {line : Text} (hsub : line ⊆ text) : ¬ line.StrayLine := fun hstray => by
    obtain ⟨d, hd, hblank, hspace⟩ := hstray.exists_mem
    rw [h d (hsub hd) hblank] at hspace
    cases hspace
  constructor
  · rw [Ne, Shell.parse_eq_strayBlank_iff]
    refine hplain fun d hd => ?_
    have hstripped := (List.dropWhile_sublist isBlank).subset (List.mem_reverse.1 hd)
    exact (List.dropWhile_sublist isBlank).subset (List.mem_reverse.1 hstripped)
  · intro hparse
    obtain ⟨_, hsuffix, g, line, rfl, -, -, hstray⟩ := Tree.File.hasStrayLine_of_parse hparse
    exact hplain (fun d hd => hsuffix.subset (by simp [hd])) hstray

/-- **Reading stops outside the grammar in shell lines only.** An expression is always read or
refused by the grammar. A bare shell invocation is neither exactly if, behind words that are
complete, white space that belongs to no gap stands where a further word would begin. A
configuration text is neither exactly if such a shell line stands where one is looked for, and then
it stands in the text behind its keyword. -/
theorem parse_eq_strayBlank (text : Text) :
    Tree.Expression.parse text ≠ .error .strayBlank ∧
      (Shell.parse text = .error .strayBlank ↔ text.strip.StrayLine) ∧
      (Tree.File.parse text = .error .strayBlank ↔
        ∃ c, Rule.ReachesShell (.start text) c ∧ c.rest.BeginsStray) ∧
      (Tree.File.parse text = .error .strayBlank → text.HasStrayLine) :=
  ⟨Tree.Expression.parse_ne_strayBlank text, Shell.parse_eq_strayBlank_iff,
    Rule.parse_eq_strayBlank_iff.trans Rule.file_eq_strayBlank_iff,
    Tree.File.hasStrayLine_of_parse⟩

/-- A no-break space between words, and one where the program should stand. -/
theorem parse_no_break_space :
    Shell.parse "sh \u00a0-c".toList = .error .strayBlank ∧
      Tree.File.parse "shell \u00a0\nmenu root \x7b a: \"x\" \x7d".toList =
        .error .strayBlank := by
  constructor <;> cbv

end KeyMenu
