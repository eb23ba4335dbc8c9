import KeyMenu.Tree.Spelling
import KeyMenu.Proofs.Text.Span
import KeyMenu.Proofs.Tree.Rule
import Mathlib.Data.Fintype.Pigeonhole

/-!
# The spellings of a string

A string has many spellings: one between quotes, if it does not end in a backslash, and one
protected spelling for each marker whose closing does not occur in it (`Text.Spells`).

* `Rule.finds_stringHere`: reading a string finds exactly the values of the spellings that stand
  at the cursor, whatever comes behind them;
* `Text.spells_spelling`: the spelling that is written is one of them; a free marker is always
  found (`freeMarker_spec`), for each double quote rules out one marker at most.
-/

namespace KeyMenu

namespace Text

/-- `s` is a spelling of the string `v`. -/
def Spells (v s : Text) : Prop :=
  (v.getLast? ≠ some '\\' ∧ s = '"' :: (escapeQuotes v ++ ['"'])) ∨
    ∃ marker, (∀ c ∈ marker, isMarkerChar c = true) ∧ occurs (closingMark marker) v = false ∧
      s = '!' :: (marker ++ '"' :: (v ++ closingMark marker))

@[simp] theorem escapeQuotes_nil : escapeQuotes [] = [] := rfl

@[simp] theorem escapeQuotes_quote (v : Text) :
    escapeQuotes ('"' :: v) = '\\' :: '"' :: escapeQuotes v := rfl

theorem escapeQuotes_cons {c : Char} (h : c ≠ '"') (v : Text) :
    escapeQuotes (c :: v) = c :: escapeQuotes v := by
  simp [escapeQuotes, h]

theorem getLast?_cons_ne {c d : Char} {v : Text} (h : (c :: v).getLast? ≠ some d) :
    v.getLast? ≠ some d := by
  cases v with
  | nil => simp
  | cons e v => simpa [List.getLast?_cons_cons] using h

/-! ### Between quotes -/

/-- No escaped text begins with a double quote. -/
theorem head?_escapeQuotes_ne (v : Text) : (escapeQuotes v).head? ≠ some '"' := by
  cases v with
  | nil => simp
  | cons c v =>
      by_cases h : c = '"'
      · simp [h]
      · simp [escapeQuotes_cons h, h]

theorem quotedBody_cons {c : Char} {t : Text} (hc : c ≠ '"')
    (hesc : c = '\\' → t.head? ≠ some '"') :
    quotedBody (c :: t) = (quotedBody t).map fun (v, s) => (c :: v, c :: s) := by
  rw [quotedBody]
  · simp [hc]
  · rintro rest rfl rfl
    exact hesc rfl rfl

/-- Reading stops at the closing quote. -/
theorem quotedBody_escapeQuotes {v : Text} (h : v.getLast? ≠ some '\\') (rest : Text) :
    quotedBody (escapeQuotes v ++ '"' :: rest) = some (v, escapeQuotes v ++ ['"']) := by
  induction v with
  | nil =>
      rw [escapeQuotes_nil, List.nil_append, quotedBody]
      · rfl
      · simp
  | cons c v ih =>
      have ih := ih (getLast?_cons_ne h)
      by_cases hc : c = '"'
      · subst hc
        simp [quotedBody, ih]
      · rw [escapeQuotes_cons hc, List.cons_append, quotedBody_cons hc, ih]
        · rfl
        · rintro rfl
          -- A backslash in front of the closing quote would have been the last code point.
          cases v with
          | nil => exact absurd rfl h
          | cons d v =>
              have hd := head?_escapeQuotes_ne (d :: v)
              cases he : escapeQuotes (d :: v) with
              | nil =>
                  by_cases hq : d = '"'
                  · simp [hq] at he
                  · simp [escapeQuotes_cons hq] at he
              | cons e t => simpa [he] using hd

theorem spelling_of_quotedBody {t v s : Text} (h : quotedBody t = some (v, s)) :
    v.getLast? ≠ some '\\' ∧ s = escapeQuotes v ++ ['"'] ∧ ∃ rest, t = s ++ rest := by
  fun_induction quotedBody t generalizing v s with
  | case1 => simp at h
  | case2 t ih =>
      obtain ⟨⟨v', s'⟩, hq, he⟩ := Option.map_eq_some_iff.1 h
      obtain ⟨hlast, rfl, rest, rfl⟩ := ih hq
      cases he
      refine ⟨?_, rfl, rest, rfl⟩
      cases v' with
      | nil => simp
      | cons d v' => simpa [List.getLast?_cons_cons] using hlast
  | case3 t _ =>
      cases h
      exact ⟨by simp, rfl, t, rfl⟩
  | case4 c t hesc hc ih =>
      obtain ⟨⟨v', s'⟩, hq, he⟩ := Option.map_eq_some_iff.1 h
      obtain ⟨hlast, rfl, rest, rfl⟩ := ih hq
      cases he
      refine ⟨?_, by rw [escapeQuotes_cons hc, List.cons_append], rest, rfl⟩
      cases v' with
      | nil =>
          rintro hl
          simp only [List.getLast?_singleton, Option.some.injEq] at hl
          exact hesc rest hl (by simp)
      | cons d v' => simpa [List.getLast?_cons_cons] using hlast

/-! ### Under a marker -/

theorem protectedOpening_eq_some_iff {t marker body : Text} :
    protectedOpening t = some (marker, body) ↔
      t = '!' :: (marker ++ '"' :: body) ∧ ∀ c ∈ marker, isMarkerChar c = true := by
  constructor
  · intro h
    unfold protectedOpening at h
    split at h
    · rename_i after
      simp only at h
      split at h
      · rename_i rest hdrop
        cases h
        refine ⟨?_, fun c hc => List.all_eq_true.1 List.all_takeWhile c hc⟩
        rw [← hdrop, List.takeWhile_append_dropWhile]
      · cases h
    · cases h
  · rintro ⟨rfl, hm⟩
    simp only [protectedOpening, List.takeWhile_append_of_pos hm, List.dropWhile_append_of_pos hm]
    simp [isMarkerChar]

theorem occurs_iff {mark t : Text} : occurs mark t = true ↔ mark <:+: t := by
  induction t with
  | nil =>
      by_cases hm : mark = []
      · simp [occurs, splitFirst, hm]
      · simp [occurs, splitFirst, hm]
  | cons c rest ih =>
      rw [List.infix_cons_iff, ← List.isPrefixOf_iff_prefix, ← ih]
      by_cases hp : mark.isPrefixOf (c :: rest) = true
      · simp [occurs, splitFirst, hp]
      · simp [occurs, splitFirst, hp]

theorem occurs_eq_false_iff {mark t : Text} : occurs mark t = false ↔ ¬ mark <:+: t := by
  rw [← occurs_iff, Bool.not_eq_true]

/-- The only double quote of a closing is its first code point. -/
theorem quote_notMem_tail_closingMark {marker : Text} (hm : ∀ c ∈ marker, isMarkerChar c = true) :
    '"' ∉ marker ++ ['!'] := by
  intro hmem
  rcases List.mem_append.1 hmem with hmem | hmem
  · exact absurd (hm _ hmem) (by decide)
  · simp at hmem

/-- The first closing behind a string in which it does not occur is the one that stands there:
none begins in the string and ends behind it. -/
theorem splitFirst_closingMark {marker v : Text} (hm : ∀ c ∈ marker, isMarkerChar c = true)
    (hfree : occurs (closingMark marker) v = false) (rest : Text) :
    splitFirst (closingMark marker) (v ++ closingMark marker ++ rest) = some (v, rest) := by
  rw [occurs_eq_false_iff] at hfree
  induction v with
  | nil => simp [closingMark, splitFirst]
  | cons c v ih =>
      have hnot : ¬ closingMark marker <+: c :: (v ++ closingMark marker ++ rest) := by
        intro hp
        rw [List.append_assoc, ← List.cons_append] at hp
        rcases List.prefix_or_prefix_of_prefix hp (List.prefix_append _ _) with h | ⟨u, hu⟩
        · exact hfree h.isInfix
        · cases u with
          | nil => exact hfree ⟨[], [], by simp [← hu]⟩
          | cons d u =>
              rw [← hu, List.prefix_append_right_inj] at hp
              obtain ⟨x, hx⟩ := hp
              have hd : d = '"' := by
                simp only [hu, closingMark, List.cons_append, List.cons.injEq] at hx
                exact hx.1
              have htail : v ++ d :: u = marker ++ ['!'] := by
                simp only [closingMark, List.cons_append, List.cons.injEq] at hu
                exact hu.2
              exact quote_notMem_tail_closingMark hm (htail ▸ by simp [hd])
      rw [List.cons_append, List.cons_append, splitFirst,
        if_neg (by rwa [List.isPrefixOf_iff_prefix]), ih]
      · rfl
      · exact fun h => hfree (h.trans (List.infix_cons (List.infix_refl _)))

/-- Before the first occurrence of a text there is no other. -/
theorem occurs_of_splitFirst {mark t before after : Text} (hmark : mark ≠ [])
    (h : splitFirst mark t = some (before, after)) : occurs mark before = false := by
  rw [occurs_eq_false_iff]
  induction t generalizing before with
  | nil => simp [splitFirst, hmark] at h
  | cons c rest ih =>
      unfold splitFirst at h
      split at h
      · cases h
        simpa using hmark
      · rename_i hp
        obtain ⟨⟨b, a⟩, hs, he⟩ := Option.map_eq_some_iff.1 h
        cases he
        rw [List.infix_cons_iff, not_or]
        refine ⟨fun hb => hp (List.isPrefixOf_iff_prefix.2 (hb.trans ?_)), ih hs⟩
        rw [← append_of_splitFirst hs]
        exact ⟨mark ++ after, by simp⟩

/-! ### The spelling that is written -/

theorem isMarkerChar_of_isDigit {c : Char} (h : c.isDigit = true) : isMarkerChar c = true := by
  simp only [Char.isDigit, ge_iff_le, Bool.and_eq_true, decide_eq_true_eq, UInt32.le_iff_toNat_le]
    at h
  have h48 : 48 ≤ c.toNat := h.1
  have h57 : c.toNat ≤ 57 := h.2
  have hq : c ≠ '"' := by
    rintro rfl
    exact absurd h48 (by decide)
  simp only [isMarkerChar, isBlank, Bool.and_eq_true, bne_iff_ne, ne_eq, hq, not_false_eq_true,
    true_and, Bool.not_eq_eq_eq_not, Bool.not_true, Bool.or_eq_false_iff, Bool.and_eq_false_imp,
    decide_eq_true_eq, decide_eq_false_iff_not, beq_eq_false_iff_ne]
  omega

/-- Markers are made of `m` and digits. -/
theorem isMarkerChar_of_mem_marker {n : Nat} {c : Char} (h : c ∈ marker n) :
    isMarkerChar c = true ∧ c ≠ '!' := by
  rw [marker] at h
  split at h
  · simp at h
  · rcases List.mem_cons.1 h with rfl | h
    · decide
    · have hd := Nat.isDigit_of_mem_toDigits (by decide) (by decide) h
      exact ⟨isMarkerChar_of_isDigit hd, fun he => by simp [he] at hd⟩

theorem marker_injective {n k : Nat} (h : marker n = marker k) : n = k := by
  simp only [marker] at h
  split at h <;> split at h
  · omega
  · simp at h
  · simp at h
  · have := congrArg (Nat.ofDigitChars 10 · 0) (List.cons.inj h).2
    simpa only [ofNat, Nat.ofDigitChars_ten_toDigits] using this

/-- At one place at most one of the closings can stand. -/
theorem marker_unique {t : Text} {n k : Nat} (hn : closingMark (marker n) <+: t)
    (hk : closingMark (marker k) <+: t) : n = k := by
  have hread {j : Nat} (hj : closingMark (marker j) <+: t) :
      marker j = t.tail.takeWhile (· ≠ '!') := by
    obtain ⟨rest, rfl⟩ := hj
    have hall : ∀ c ∈ marker j, decide (c ≠ '!') = true := fun c hc => by
      simpa using (isMarkerChar_of_mem_marker hc).2
    have htail : (closingMark (marker j) ++ rest).tail = marker j ++ '!' :: rest := by
      simp [closingMark]
    rw [htail, takeWhile_append_eq hall (by simp)]
  exact marker_injective ((hread hn).trans (hread hk).symm)

/-- Among more markers than the text has code points there is a free one. -/
theorem exists_free_marker (t : Text) :
    ∃ n, n < t.length + 1 ∧ occurs (closingMark (marker n)) t = false := by
  by_contra hnone
  -- Otherwise each closing has its place in the text, and two of them would share one.
  have hplace : ∀ n : Fin (t.length + 1), ∃ i : Fin t.length,
      closingMark (marker n) <+: t.drop i := by
    intro n
    have hocc : occurs (closingMark (marker n)) t = true := by
      rw [← Bool.not_eq_false]
      exact fun h => hnone ⟨n, n.2, h⟩
    obtain ⟨before, after, heq⟩ := occurs_iff.1 hocc
    refine ⟨⟨before.length, by simp [← heq, closingMark]⟩, after, ?_⟩
    simp [← heq]
  choose place hplace using hplace
  obtain ⟨n, k, hne, heq⟩ := Fintype.exists_ne_map_eq_of_card_lt place (by simp)
  exact hne (Fin.ext (marker_unique (hplace n) (heq ▸ hplace k)))

theorem freeMarker_spec (t : Text) :
    (∃ n, freeMarker t = marker n) ∧ occurs (closingMark (freeMarker t)) t = false := by
  obtain ⟨n, hn, hfree⟩ := exists_free_marker t
  have hsome : (((List.range (t.length + 1)).map marker).find? fun m =>
      !occurs (closingMark m) t).isSome = true := by
    rw [List.find?_isSome]
    exact ⟨marker n, List.mem_map.2 ⟨n, List.mem_range.2 hn, rfl⟩, by simp [hfree]⟩
  obtain ⟨m, hm⟩ := Option.isSome_iff_exists.1 hsome
  have hfm : freeMarker t = m := by simp [freeMarker, hm]
  obtain ⟨k, -, hk⟩ := List.mem_map.1 (List.mem_of_find?_eq_some hm)
  refine ⟨⟨k, by rw [hfm, hk]⟩, ?_⟩
  simpa [hfm] using List.find?_some hm

theorem spells_spelling (v : Text) : Spells v (spelling v) := by
  rw [spelling]
  split
  · obtain ⟨⟨n, hn⟩, hfree⟩ := freeMarker_spec v
    refine .inr ⟨freeMarker v, fun c hc => ?_, hfree, by simp⟩
    rw [hn] at hc
    exact (isMarkerChar_of_mem_marker hc).1
  · rename_i hslash
    refine .inl ⟨fun h => hslash (List.mem_of_getLast? h), by simp⟩

end Text

namespace Rule

/-! ### Reading -/

theorem not_finds_unclosed {α : Type} {closing : Text} {c next : Cursor} {a : α} :
    ¬ Finds (unclosed closing) c a next := by
  rintro ⟨notes, h⟩
  cases h

/-- A string that is found is the value of the spelling that has been taken. -/
theorem finds_stringHere {c next : Cursor} {v : Text} :
    Finds stringHere c v next ↔
      ∃ s rest, Text.Spells v s ∧ c.rest = s ++ rest ∧ next = c.past s := by
  rw [stringHere, finds_bind]
  constructor
  · rintro ⟨t, mid, hrest, h⟩
    obtain ⟨rfl, rfl⟩ := finds_rest.1 hrest
    split at h
    · rename_i body hbody
      split at h
      · rename_i value s hq
        obtain ⟨u, last, hadv, hp⟩ := finds_bind.1 h
        obtain ⟨rfl, rfl⟩ := finds_pure.1 hp
        obtain rfl := finds_advance.1 hadv
        obtain ⟨hlast, rfl, rest, rfl⟩ := Text.spelling_of_quotedBody hq
        exact ⟨_, rest, .inl ⟨hlast, rfl⟩, hbody, rfl⟩
      · exact absurd h not_finds_unclosed
    · split at h
      · rename_i marker body hopen
        split at h
        · rename_i value after hs
          obtain ⟨u, last, hadv, hp⟩ := finds_bind.1 h
          obtain ⟨rfl, rfl⟩ := finds_pure.1 hp
          obtain rfl := finds_advance.1 hadv
          obtain ⟨hrest, hm⟩ := Text.protectedOpening_eq_some_iff.1 hopen
          have hbody := Text.append_of_splitFirst hs
          have hfree := Text.occurs_of_splitFirst (by simp [closingMark]) hs
          refine ⟨_, after, .inr ⟨marker, hm, hfree, rfl⟩, ?_, by simp⟩
          rw [hrest, ← hbody]
          simp
        · exact absurd h not_finds_unclosed
      · exact absurd h not_finds_failure
  · rintro ⟨s, rest, hs, hrest, rfl⟩
    refine ⟨c.rest, c, finds_rest.2 ⟨rfl, rfl⟩, ?_⟩
    rcases hs with ⟨hlast, rfl⟩ | ⟨marker, hm, hfree, rfl⟩
    · have hbody : c.rest = '"' :: (Text.escapeQuotes v ++ '"' :: rest) := by
        rw [hrest]
        simp
      simp only [hbody, Text.quotedBody_escapeQuotes hlast]
      exact (finds_advance_past _ c).bind (finds_pure.2 ⟨rfl, rfl⟩)
    · have hbody : c.rest = '!' :: (marker ++ '"' :: (v ++ closingMark marker ++ rest)) := by
        rw [hrest]
        simp
      have hopen := Text.protectedOpening_eq_some_iff.2 ⟨hbody, hm⟩
      have hsplit := Text.splitFirst_closingMark hm hfree rest
      split
      · rename_i body hquote
        rw [hbody] at hquote
        cases hquote
      · simp only [hopen, hsplit]
        refine (finds_advance_past _ c).bind (finds_pure.2 ⟨rfl, ?_⟩)
        simp

/-- No string begins where there is neither a double quote nor an opening with a marker. -/
theorem misses_stringHere {c : Cursor} :
    Misses stringHere c ↔ c.rest.head? ≠ some '"' ∧ protectedOpening c.rest = none := by
  rw [stringHere, misses_bind]
  constructor
  · rintro (h | ⟨t, mid, hrest, h⟩)
    · exact absurd h not_misses_rest
    · obtain ⟨rfl, rfl⟩ := finds_rest.1 hrest
      split at h
      · split at h
        · simp [misses_bind] at h
        · obtain ⟨notes, h⟩ := h
          cases h
      · rename_i hquote
        split at h
        · split at h
          · simp [misses_bind] at h
          · obtain ⟨notes, h⟩ := h
            cases h
        · rename_i hopen
          refine ⟨fun hhead => ?_, hopen⟩
          obtain ⟨body, hbody⟩ := List.head?_eq_some_iff.1 hhead
          exact hquote body hbody
  · rintro ⟨hhead, hopen⟩
    refine .inr ⟨c.rest, c, finds_rest.2 ⟨rfl, rfl⟩, ?_⟩
    split
    · rename_i body hbody
      simp [hbody] at hhead
    · simp only [hopen]
      exact misses_failure

end Rule

end KeyMenu
