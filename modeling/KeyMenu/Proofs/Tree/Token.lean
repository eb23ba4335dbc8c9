import KeyMenu.Proofs.Tree.Leaf
import KeyMenu.Tree.Grammar

/-!
# Reading tokens

At every cursor there is a gap to skip (`Cursor.Skips`), and what stands behind it decides what
each token rule does. For each rule there is one equivalence for what it finds and one for where
it does not begin.
-/

namespace KeyMenu

/-- At `c` the gap `g` is skipped, and `rest` stands behind it. -/
def Cursor.Skips (gap : Gap) (c : Cursor) (g rest : Text) : Prop :=
  c.rest = g ++ rest ∧ gap.Fills rest g ∧ gap.opens rest = false

namespace Cursor

variable {gap : Gap} {c : Cursor} {g rest : Text}

theorem exists_skips (gap : Gap) (c : Cursor) : ∃ g rest, Skips gap c g rest := by
  obtain ⟨rest, heq, hfill, hopen⟩ := gap.exists_fills c.rest
  exact ⟨_, rest, heq, hfill, hopen⟩

theorem Skips.lead_eq (h : Skips gap c g rest) : gap.lead c.rest = g := by
  rw [h.1, Gap.lead_append h.2.1 h.2.2]

@[simp] theorem Skips.rest_past (h : Skips gap c g rest) : (c.past g).rest = rest :=
  Cursor.rest_past h.1

/-- What is skipped is determined. -/
theorem Skips.unique {g' rest' : Text} (h : Skips gap c g rest) (h' : Skips gap c g' rest') :
    g = g' ∧ rest = rest' := by
  have hg : g = g' := h.lead_eq.symm.trans h'.lead_eq
  exact ⟨hg, by rw [← h.rest_past, ← h'.rest_past, hg]⟩

/-- Behind the gap nothing is left to skip. -/
theorem Skips.again (h : Skips gap c g rest) : Skips gap (c.past g) [] rest :=
  ⟨h.rest_past, .nil, h.2.2⟩

end Cursor

namespace Rule

variable {gap : Gap} {c next : Cursor} {g rest : Text} {α : Type}

/-! ### Gaps and marks -/

theorem finds_skip (h : c.Skips gap g rest) {u : Unit} :
    Finds (skip gap) c u next ↔ next = c.past g := by
  constructor
  · rintro ⟨notes, hf⟩
    cases hf
    rw [h.lead_eq]
  · rintro rfl
    refine ⟨[], ?_⟩
    rw [skip, h.lead_eq]

theorem not_misses_skip : ¬ Misses (skip gap) c := by
  rintro ⟨notes, h⟩
  cases h

theorem finds_skip_bind (h : c.Skips gap g rest) {f : Unit → Rule α} {a : α} :
    Finds (skip gap >>= f) c a next ↔ Finds (f ()) (c.past g) a next := by
  rw [finds_bind]
  constructor
  · rintro ⟨u, mid, hs, hf⟩
    obtain rfl := (finds_skip h).1 hs
    exact hf
  · exact fun hf => ⟨(), _, (finds_skip h).2 rfl, hf⟩

theorem misses_skip_bind (h : c.Skips gap g rest) {f : Unit → Rule α} :
    Misses (skip gap >>= f) c ↔ Misses (f ()) (c.past g) := by
  rw [misses_bind]
  constructor
  · rintro (hm | ⟨u, mid, hs, hf⟩)
    · exact absurd hm not_misses_skip
    · obtain rfl := (finds_skip h).1 hs
      exact hf
  · exact fun hf => .inr ⟨(), _, (finds_skip h).2 rfl, hf⟩

theorem finds_rest_bind {f : Text → Rule α} {a : α} :
    Finds (Rule.rest >>= f) c a next ↔ Finds (f c.rest) c a next := by
  simp [finds_bind]

theorem misses_rest_bind {f : Text → Rule α} :
    Misses (Rule.rest >>= f) c ↔ Misses (f c.rest) c := by
  simp [misses_bind]

theorem finds_here_bind {f : Position → Rule α} {a : α} :
    Finds (here >>= f) c a next ↔ Finds (f c.pos) c a next := by
  simp [finds_bind]

theorem misses_here_bind {f : Position → Rule α} :
    Misses (here >>= f) c ↔ Misses (f c.pos) c := by
  simp [misses_bind]

theorem finds_mark (h : c.Skips gap g rest) {token : Char} {u : Unit} :
    Finds (mark gap token) c u next ↔
      ∃ more, rest = token :: more ∧ next = (c.past g).past [token] := by
  rw [mark, finds_skip_bind h, finds_rest_bind, h.rest_past]
  split
  · rename_i hhead
    obtain ⟨more, rfl⟩ := List.head?_eq_some_iff.1 hhead
    simp
  · rename_i hhead
    refine ⟨fun hf => absurd hf not_finds_expect, ?_⟩
    rintro ⟨more, rfl, -⟩
    exact absurd rfl hhead

theorem misses_mark (h : c.Skips gap g rest) {token : Char} :
    Misses (mark gap token) c ↔ rest.head? ≠ some token := by
  rw [mark, misses_skip_bind h, misses_rest_bind, h.rest_past]
  split
  · rename_i hhead
    simp [hhead]
  · rename_i hhead
    simp [hhead]

/-! ### Words and names -/

theorem finds_keyword (h : c.Skips .anyLine g rest) {word : Text} {u : Unit} :
    Finds (keyword word) c u next ↔
      ∃ more, rest = word ++ more ∧ (∀ d ∈ more.head?, isSymbolChar d = false) ∧
        next = (c.past g).past word := by
  rw [keyword, finds_skip_bind h, finds_rest_bind, h.rest_past]
  split
  · rename_i hword
    simp only [Bool.and_eq_true, List.isPrefixOf_iff_prefix, Bool.not_eq_eq_eq_not, Bool.not_true]
      at hword
    obtain ⟨⟨more, rfl⟩, hmore⟩ := hword
    rw [finds_advance]
    constructor
    · rintro rfl
      refine ⟨more, rfl, fun d hd => ?_, rfl⟩
      rw [List.drop_left, Option.mem_def.1 hd] at hmore
      simpa using hmore
    · rintro ⟨_, -, -, rfl⟩
      rfl
  · rename_i hword
    refine ⟨fun hf => absurd hf not_finds_expect, ?_⟩
    rintro ⟨more, rfl, hmore, -⟩
    refine absurd ?_ hword
    simp only [Bool.and_eq_true, List.isPrefixOf_iff_prefix, List.prefix_append, List.drop_left,
      Bool.not_eq_eq_eq_not, Bool.not_true, true_and]
    cases hm : more.head? with
    | none => rfl
    | some d => simpa using hmore d hm

theorem misses_keyword (h : c.Skips .anyLine g rest) {word : Text} :
    Misses (keyword word) c ↔
      ∀ more, rest = word ++ more → ∃ d ∈ more.head?, isSymbolChar d = true := by
  rw [keyword, misses_skip_bind h, misses_rest_bind, h.rest_past]
  split
  · rename_i hword
    simp only [Bool.and_eq_true, List.isPrefixOf_iff_prefix, Bool.not_eq_eq_eq_not, Bool.not_true]
      at hword
    obtain ⟨⟨more, rfl⟩, hmore⟩ := hword
    refine ⟨fun hm => absurd hm not_misses_advance, fun hall => ?_⟩
    obtain ⟨d, hd, hsym⟩ := hall more rfl
    rw [List.drop_left, Option.mem_def.1 hd] at hmore
    simp [hsym] at hmore
  · rename_i hword
    refine ⟨?_, fun _ => misses_expect⟩
    rintro - more rfl
    simp only [Bool.and_eq_true, List.isPrefixOf_iff_prefix, List.prefix_append, List.drop_left,
      Bool.not_eq_eq_eq_not, Bool.not_true, true_and, Bool.not_eq_false] at hword
    simpa [Option.any_eq_true] using hword

theorem finds_symbol (h : c.Skips .anyLine g rest) {what : Text} {s : Tree.Symbol} :
    Finds (symbol what) c s next ↔
      s.pos = (c.past g).pos ∧ Tree.IsName s.name ∧
        (∃ more, rest = s.name ++ more ∧ ∀ d ∈ more.head?, isSymbolChar d = false) ∧
          next = (c.past g).past s.name := by
  obtain ⟨name, pos⟩ := s
  rw [symbol, finds_skip_bind h, finds_here_bind, finds_rest_bind, h.rest_past]
  simp only [List.isEmpty_iff]
  split
  · rename_i hempty
    refine ⟨fun hf => absurd hf not_finds_expect, ?_⟩
    rintro ⟨-, hname, ⟨more, rfl, hmore⟩, -⟩
    rw [Text.takeWhile_append_eq hname.2 hmore] at hempty
    exact absurd hempty hname.1
  · rename_i hne
    rw [finds_bind]
    constructor
    · rintro ⟨u, mid, hadv, hp⟩
      obtain ⟨hs, rfl⟩ := finds_pure.1 hp
      obtain rfl := finds_advance.1 hadv
      cases hs
      refine ⟨rfl, ⟨hne, fun d hd => Text.of_mem_takeWhile hd⟩,
        ⟨rest.dropWhile isSymbolChar, ?_, ?_⟩, rfl⟩
      · rw [List.takeWhile_append_dropWhile]
      · exact fun d hd => Text.of_mem_head?_dropWhile hd
    · rintro ⟨rfl, hname, ⟨more, rfl, hmore⟩, rfl⟩
      rw [Text.takeWhile_append_eq hname.2 hmore]
      exact ⟨(), _, finds_advance_past _ _, finds_pure.2 ⟨rfl, rfl⟩⟩

/-! ### Strings -/

theorem finds_string (h : c.Skips .anyLine g rest) {v : Text} {pos : Position} :
    Finds string c (v, pos) next ↔
      pos = (c.past g).pos ∧ ∃ s more, Text.Spells v s ∧ rest = s ++ more ∧
        next = (c.past g).past s := by
  rw [string, finds_skip_bind h, finds_here_bind, finds_bind]
  constructor
  · rintro ⟨value, mid, hv, hp⟩
    obtain ⟨heq, rfl⟩ := finds_pure.1 hp
    cases heq
    rcases finds_orElse.1 hv with hv | ⟨-, hv⟩
    · obtain ⟨s, more, hs, hrest, rfl⟩ := finds_stringHere.1 hv
      rw [h.rest_past] at hrest
      exact ⟨rfl, s, more, hs, hrest, rfl⟩
    · exact absurd hv not_finds_expect
  · rintro ⟨rfl, s, more, hs, hrest, rfl⟩
    refine ⟨v, _, finds_orElse.2 (.inl (finds_stringHere.2 ⟨s, more, hs, ?_, rfl⟩)),
      finds_pure.2 ⟨rfl, rfl⟩⟩
    rw [h.rest_past, hrest]

theorem misses_string (h : c.Skips .anyLine g rest) :
    Misses string c ↔ rest.head? ≠ some '"' ∧ protectedOpening rest = none := by
  rw [string, misses_skip_bind h, misses_here_bind, misses_bind]
  simp only [misses_orElse, misses_stringHere, h.rest_past, misses_expect, and_true,
    not_misses_pure, and_false, exists_false, or_false]

/-! ### Words of a shell line -/

theorem protectedOpening_of_append {s more : Text} (h : protectedOpening (s ++ more) = none) :
    protectedOpening s = none := by
  by_contra hs
  obtain ⟨⟨marker, body⟩, hs⟩ := Option.ne_none_iff_exists'.1 hs
  obtain ⟨rfl, hm⟩ := Text.protectedOpening_eq_some_iff.1 hs
  have hopen : protectedOpening ('!' :: (marker ++ '"' :: body) ++ more) =
      some (marker, body ++ more) :=
    Text.protectedOpening_eq_some_iff.2 ⟨by simp, hm⟩
  rw [h] at hopen
  cases hopen

/-- Where a word ends, no opening goes on. -/
theorem protectedOpening_append {s more : Text} (h : protectedOpening s = none)
    (hs : ∀ d ∈ s, isBlank d = false) (hmore : ∀ d ∈ more.head?, isBlank d = true) :
    protectedOpening (s ++ more) = none := by
  by_contra hne
  obtain ⟨⟨marker, body⟩, hopen⟩ := Option.ne_none_iff_exists'.1 hne
  obtain ⟨heq, hm⟩ := Text.protectedOpening_eq_some_iff.1 hopen
  -- The text before the quote has no white space, so that the quote would belong to the word.
  rcases List.append_eq_append_iff.1 (heq.trans (List.append_cons ('!' :: marker) '"' body)) with
    ⟨u, hu, hmore'⟩ | ⟨u, rfl, hbody⟩
  · cases u with
    | nil =>
        rw [List.append_nil] at hu
        have hs' := Text.protectedOpening_eq_some_iff.2
          (show s = '!' :: (marker ++ '"' :: []) ∧ _ from ⟨by rw [← hu]; simp, hm⟩)
        rw [h] at hs'
        cases hs'
    | cons d u =>
        have hd : isBlank d = true := hmore d (by simp [hmore'])
        have hmem : d ∈ '!' :: marker ++ ['"'] := by
          rw [hu]
          simp
        simp only [List.cons_append, List.mem_cons, List.mem_append, List.not_mem_nil, or_false]
          at hmem
        rcases hmem with rfl | hmem | rfl
        · exact absurd hd (by decide)
        · have := hm d hmem
          simp [isMarkerChar, hd] at this
        · exact absurd hd (by decide)
  · have hs' := Text.protectedOpening_eq_some_iff.2
      (show '!' :: marker ++ ['"'] ++ u = '!' :: (marker ++ '"' :: u) ∧ _ from ⟨by simp, hm⟩)
    rw [h] at hs'
    cases hs'

/-- A word is a string, or goes on up to white space or the end of the text. -/
def WordAt (v s more : Text) : Prop :=
  Text.Spells v s ∨ (Tree.IsBareWord v ∧ s = v) ∧ ∀ d ∈ more.head?, isBlank d = true

/-- A string begins with a double quote or with an opening. -/
theorem head?_of_spells {v s : Text} (h : Text.Spells v s) (more : Text) :
    (s ++ more).head? = some '"' ∨
      (s ++ more).head? = some '!' ∧ protectedOpening (s ++ more) ≠ none := by
  rcases h with ⟨-, rfl⟩ | ⟨marker, hm, -, rfl⟩
  · exact .inl rfl
  · refine .inr ⟨rfl, ?_⟩
    have hopen : protectedOpening ('!' :: (marker ++ '"' :: (v ++ closingMark marker)) ++ more) =
        some (marker, v ++ closingMark marker ++ more) :=
      Text.protectedOpening_eq_some_iff.2 ⟨by simp, hm⟩
    rw [hopen]
    exact Option.some_ne_none _

/-- No word begins with a line end. -/
theorem head?_of_wordAt {v s more : Text} (h : WordAt v s more) :
    ∃ d ∈ (s ++ more).head?, isBlank d = false := by
  rcases h with hs | ⟨⟨⟨hne, hblank, -⟩, rfl⟩, -⟩
  · rcases head?_of_spells hs more with hhead | ⟨hhead, -⟩
    · exact ⟨_, hhead, by decide⟩
    · exact ⟨_, hhead, by decide⟩
  · obtain ⟨d, s, rfl⟩ := List.exists_cons_of_ne_nil hne
    exact ⟨d, rfl, hblank d (by simp)⟩

/-- Where neither a comment nor a string begins, the characters up to the next blank are a word. -/
theorem wordAt_takeWhile {rest : Text} (hne : rest.takeWhile (!isBlank ·) ≠ [])
    (hhash : rest.head? ≠ some '#') (hquote : rest.head? ≠ some '"')
    (hopen : protectedOpening rest = none) :
    WordAt (rest.takeWhile (!isBlank ·)) (rest.takeWhile (!isBlank ·))
      (rest.dropWhile (!isBlank ·)) := by
  have hrest := List.takeWhile_append_dropWhile (p := (!isBlank ·)) (l := rest)
  have hhead : (rest.takeWhile (!isBlank ·)).head? = rest.head? := by
    conv_rhs => rw [← hrest]
    exact (List.head?_append_of_ne_nil _ hne).symm
  have hblank : ∀ e ∈ rest.takeWhile (!isBlank ·), isBlank e = false := fun e he => by
    simpa using Text.of_mem_takeWhile he
  refine .inr ⟨⟨⟨hne, hblank, ?_, ?_, ?_⟩, rfl⟩, fun e he => ?_⟩
  · rwa [hhead]
  · rwa [hhead]
  · exact protectedOpening_of_append (hrest.symm ▸ hopen)
  · simpa using Text.of_mem_head?_dropWhile he

theorem finds_shellWord (h : c.Skips .sameLine g rest) {v : Text} :
    Finds shellWord c v next ↔
      ∃ s more, rest = s ++ more ∧ WordAt v s more ∧ next = (c.past g).past s := by
  rw [shellWord, finds_skip_bind h, finds_rest_bind, h.rest_past]
  constructor
  · intro hf
    split at hf
    · exact absurd hf not_finds_failure
    · rename_i d text
      split at hf
      · exact absurd hf not_finds_failure
      · rw [finds_orElse, finds_stringHere, misses_stringHere, h.rest_past] at hf
        rcases hf with ⟨s, more, hs, hrest, rfl⟩ | ⟨⟨hquote, hopen⟩, hf⟩
        · exact ⟨s, more, hrest, .inl hs, rfl⟩
        · simp only [List.isEmpty_iff] at hf
          split at hf
          · obtain ⟨notes, hf⟩ := hf
            cases hf
          · -- no string, so the word goes on up to the next blank
            rename_i hne
            obtain ⟨u, mid, hadv, hp⟩ := finds_bind.1 hf
            obtain ⟨rfl, rfl⟩ := finds_pure.1 hp
            obtain rfl := finds_advance.1 hadv
            have hhash : (d :: text).head? ≠ some '#' := fun hhead => by
              obtain rfl := Option.some.inj hhead
              exact absurd h.2.2 (by simp)
            exact ⟨_, _, List.takeWhile_append_dropWhile.symm,
              wordAt_takeWhile hne hhash hquote hopen, rfl⟩
  · rintro ⟨s, more, rfl, hword, rfl⟩
    obtain ⟨d, hd, hblank⟩ := head?_of_wordAt hword
    obtain ⟨text, htext⟩ := List.head?_eq_some_iff.1 (Option.mem_def.1 hd)
    have hend : ¬ (decide (d = '\r') || decide (d = '\n')) = true := by
      rw [Bool.or_eq_true, decide_eq_true_eq, decide_eq_true_eq]
      rintro (rfl | rfl) <;> exact absurd hblank (by decide)
    rw [htext]
    simp only [hend]
    rw [if_neg (by simp), finds_orElse, finds_stringHere, misses_stringHere, h.rest_past, htext]
    rcases hword with hs | ⟨⟨hbare, rfl⟩, hmore⟩
    · exact .inl ⟨s, more, hs, htext.symm, rfl⟩
    · have hrun : (d :: text).takeWhile (!isBlank ·) = s := by
        rw [← htext, Text.takeWhile_append_eq (by simpa using hbare.2.1) (by simpa using hmore)]
      refine .inr ⟨⟨?_, ?_⟩, ?_⟩
      · rw [← htext, List.head?_append_of_ne_nil _ hbare.1]
        exact hbare.2.2.2.1
      · rw [← htext]
        exact protectedOpening_append hbare.2.2.2.2 hbare.2.1 hmore
      · simp only [hrun, List.isEmpty_iff, if_neg hbare.1]
        exact (finds_advance_past _ _).bind (finds_pure.2 ⟨rfl, rfl⟩)

/-- No word begins at the end of the line, and everywhere else a word begins or nothing can. -/
theorem misses_shellWord (h : c.Skips .sameLine g rest) :
    Misses shellWord c ↔ ∀ d ∈ rest.head?, d = '\r' ∨ d = '\n' := by
  rw [shellWord, misses_skip_bind h, misses_rest_bind, h.rest_past]
  split
  · simp
  · rename_i d text
    split
    · rename_i hend
      simpa using hend
    · rename_i hend
      simp only [misses_orElse, List.isEmpty_iff]
      refine ⟨fun hm => ?_, fun hall => absurd (hall d rfl) (by simpa using hend)⟩
      have hm := hm.2
      split at hm
      · obtain ⟨notes, hm⟩ := hm
        cases hm
      · simp [misses_bind] at hm

theorem shortens_shellWord : Shortens shellWord := by
  intro c v next hf
  obtain ⟨g, rest, h⟩ := c.exists_skips .sameLine
  obtain ⟨s, more, rfl, hword, rfl⟩ := (finds_shellWord h).1 hf
  rw [h.1, Cursor.rest_past h.rest_past]
  rcases hword with hs | ⟨⟨hbare, rfl⟩, -⟩
  · rcases hs with ⟨-, rfl⟩ | ⟨marker, -, -, rfl⟩ <;> simp <;> omega
  · have := List.length_pos_of_ne_nil hbare.1
    simp
    omega

theorem finds_shellWords {shell : Shell} :
    Finds shellWords c shell next ↔ Repeats shellWord c shell.words next := by
  constructor
  · intro hf
    obtain ⟨words, mid, hwords, hf⟩ := finds_bind.1 hf
    split at hf
    · obtain ⟨rfl, rfl⟩ := finds_pure.1 hf
      exact (finds_many shortens_shellWord).1 hwords
    · obtain ⟨g, rest, h⟩ := mid.exists_skips .sameLine
      rw [finds_skip_bind h, finds_commit] at hf
      exact absurd hf not_finds_expect
  · intro h
    exact finds_bind.2 ⟨shell.words, next, h.finds_many, finds_pure.2 ⟨rfl, rfl⟩⟩

/-! ### Keys and references -/

/-- What `key` does behind the gap, where `name` stands in front of `more` and `g'` is the gap
behind the name. -/
theorem key_apply (h : c.Skips .anyLine g rest) {name more g' more' : Text}
    (hrest : rest = name ++ more) (hname : ∀ d ∈ name, isKeyChar d = true)
    (hmore : ∀ d ∈ more.head?, isKeyChar d = false)
    (hgap : ((c.past g).past name).Skips .sameLine g' more') :
    key c =
      if name = [] then .absent [(c.past g).expecting "key".toList]
      else if more'.head? = some ':' then
        .found (name, (c.past g).pos) ((((c.past g).past name).past g').past [':']) []
      else if name.head? = some '\x7d' then .absent [(c.past g).expecting "key".toList]
      else .absent [(((c.past g).past name).past g').expecting (shown [':']),
        (c.past g).expecting "key".toList] := by
  unfold key
  change (skip .anyLine c).andThen _ = _
  rw [skip, h.lead_eq]
  simp only [Outcome.andThen, Outcome.after_nil, h.rest_past, hrest, List.isEmpty_iff,
    Text.takeWhile_append_eq hname hmore, hgap.lead_eq, hgap.rest_past]

/-- A name in front of a cursor, and the gap behind it, always are there to be read. -/
theorem exists_key_name (c : Cursor) (g rest : Text) :
    ∃ name more g' more', rest = name ++ more ∧ (∀ d ∈ name, isKeyChar d = true) ∧
      (∀ d ∈ more.head?, isKeyChar d = false) ∧
      ((c.past g).past name).Skips .sameLine g' more' := by
  obtain ⟨g', more', hgap⟩ :=
    ((c.past g).past (rest.takeWhile isKeyChar)).exists_skips .sameLine
  exact ⟨_, rest.dropWhile isKeyChar, g', more', List.takeWhile_append_dropWhile.symm,
    fun d hd => Text.of_mem_takeWhile hd, fun d hd => Text.of_mem_head?_dropWhile hd, hgap⟩

theorem finds_key (h : c.Skips .anyLine g rest) {name : Text} {pos : Position} :
    Finds key c (name, pos) next ↔
      pos = (c.past g).pos ∧ Tree.IsKey name ∧ ∃ more g' more', rest = name ++ more ∧
        (∀ d ∈ more.head?, isKeyChar d = false) ∧
          ((c.past g).past name).Skips .sameLine g' (':' :: more') ∧
            next = (((c.past g).past name).past g').past [':'] := by
  constructor
  · rintro ⟨notes, hf⟩
    obtain ⟨name', more, g', more', rfl, hname, hmore, hgap⟩ := exists_key_name c g rest
    rw [key_apply h rfl hname hmore hgap] at hf
    split at hf
    · cases hf
    · rename_i hne
      split at hf
      · rename_i hcolon
        obtain ⟨more', rfl⟩ := List.head?_eq_some_iff.1 hcolon
        cases hf
        refine ⟨rfl, ⟨hne, hname, fun hhead => ?_⟩, more, g', more', rfl, hmore, hgap, rfl⟩
        obtain ⟨name, rfl⟩ := List.head?_eq_some_iff.1 hhead
        exact absurd h.2.2 (by simp)
      · split at hf <;> cases hf
  · rintro ⟨rfl, hkey, more, g', more', rfl, hmore, hgap, rfl⟩
    refine ⟨[], ?_⟩
    rw [key_apply h rfl hkey.2.1 hmore hgap, if_neg hkey.1, List.head?_cons,
      if_pos rfl]

theorem misses_key (h : c.Skips .anyLine g rest) {name more g' more' : Text}
    (hrest : rest = name ++ more) (hname : ∀ d ∈ name, isKeyChar d = true)
    (hmore : ∀ d ∈ more.head?, isKeyChar d = false)
    (hgap : ((c.past g).past name).Skips .sameLine g' more') :
    Misses key c ↔ name = [] ∨ more'.head? ≠ some ':' := by
  rw [Misses, key_apply h hrest hname hmore hgap]
  split
  · simp_all
  · split
    · simp_all
    · split <;> simp_all

theorem finds_referenceHere {p : Tree.Piece} :
    Finds referenceHere c p next ↔
      ∃ name more, p = .reference name c.pos ∧ Tree.IsName name ∧ c.rest = '$' :: (name ++ more) ∧
        (∀ d ∈ more.head?, isSymbolChar d = false) ∧ next = c.past ('$' :: name) := by
  constructor
  · rintro ⟨notes, hf⟩
    unfold referenceHere at hf
    split at hf
    · rename_i text hrest
      simp only [List.isEmpty_iff] at hf
      split at hf
      · cases hf
      · rename_i hne
        cases hf
        refine ⟨_, text.dropWhile isSymbolChar, rfl,
          ⟨hne, fun d hd => Text.of_mem_takeWhile hd⟩, ?_,
          fun d hd => Text.of_mem_head?_dropWhile hd, rfl⟩
        rw [hrest, List.takeWhile_append_dropWhile]
    · cases hf
  · rintro ⟨name, more, rfl, hname, hrest, hmore, rfl⟩
    refine ⟨[], ?_⟩
    unfold referenceHere
    simp only [hrest, Text.takeWhile_append_eq hname.2 hmore, List.isEmpty_iff, if_neg hname.1]

theorem misses_referenceHere :
    Misses referenceHere c ↔ c.rest.head? ≠ some '$' := by
  constructor
  · rintro ⟨notes, hm⟩
    unfold referenceHere at hm
    split at hm
    · simp only at hm
      split at hm <;> cases hm
    · rename_i hrest
      intro hhead
      obtain ⟨text, htext⟩ := List.head?_eq_some_iff.1 hhead
      exact hrest text htext
  · intro hhead
    refine ⟨[c.expecting (shown ['$'])], ?_⟩
    unfold referenceHere
    split
    · rename_i text hrest
      rw [hrest] at hhead
      exact absurd rfl hhead
    · rfl

end Rule

end KeyMenu
