import KeyMenu.Proofs.Tree.Token

/-!
# Strings that have been written

Writing a text as a string comes to an end, since among the markers that are tried there is one
whose closing does not occur in the text. What has been written is read back, whatever stands behind
it: nothing in the text ends the string early, and nothing behind it belongs to it.

* `Text.Tries`: the markers are tried one after the other, up to the first that can be used;
* `Rule.stringHere_apply`, `Rule.string_apply`, `Rule.shellWord_apply`: what reading a string comes
  to, and that nothing is looked for in vain on the way;
* `Text.spelling_read`: the main theorem.
-/

namespace KeyMenu

namespace Text

/-! ### Writing -/

/-- The markers are tried from the `n`-th on, one after the other, and the `k`-th is the first whose
closing does not occur in the text. -/
inductive Tries (t : Text) : Nat → Nat → Prop
  | free {n : Nat} (h : occurs (closingMark (marker n)) t = false) : Tries t n n
  | next {n k : Nat} (h : occurs (closingMark (marker n)) t = true) (hk : Tries t (n + 1) k) :
      Tries t n k

variable {t v : Text} {n k : Nat}

/-- In front of a marker that can be used, the search comes to an end. -/
theorem exists_tries (hk : occurs (closingMark (marker k)) t = false) (hn : n ≤ k) :
    ∃ j ≤ k, Tries t n j := by
  induction hd : k - n generalizing n with
  | zero =>
      obtain rfl : n = k := by omega
      exact ⟨n, Nat.le_refl n, .free hk⟩
  | succ d ih =>
      cases hocc : occurs (closingMark (marker n)) t with
      | false => exact ⟨n, hn, .free hocc⟩
      | true =>
          obtain ⟨j, hj, htries⟩ := ih (n := n + 1) (by omega) (by omega)
          exact ⟨j, hj, .next hocc htries⟩

/-- All markers in front of the one that is used have been ruled out. -/
theorem Tries.spec (h : Tries t n k) :
    occurs (closingMark (marker k)) t = false ∧ n ≤ k ∧
      ∀ j, n ≤ j → j < k → occurs (closingMark (marker j)) t = true := by
  induction h with
  | @free n h => exact ⟨h, Nat.le_refl n, fun j hj hlt => by omega⟩
  | @next n k h _ ih =>
      obtain ⟨hfree, hle, hbefore⟩ := ih
      refine ⟨hfree, by omega, fun j hj hlt => ?_⟩
      rcases Nat.eq_or_lt_of_le hj with rfl | hj
      · exact h
      · exact hbefore j hj hlt

/-- The marker of a written text is the one at which the search comes to an end. -/
theorem freeMarker_eq_of_tries (h : Tries t 0 k) (hk : k ≤ t.length) : freeMarker t = marker k := by
  obtain ⟨hfree, -, hbefore⟩ := h.spec
  have hfind : (List.range (t.length + 1)).find? (fun n => !occurs (closingMark (marker n)) t) =
      some k := by
    rw [List.find?_range_eq_some]
    refine ⟨by simp [hfree], List.mem_range.2 (by omega), fun j hj => ?_⟩
    simp [hbefore j (Nat.zero_le j) hj]
  rw [freeMarker, List.find?_map, Function.comp_def, hfind]
  rfl

/-- The search for a marker comes to an end after at most as many steps as the text is long. -/
theorem exists_tries_freeMarker (t : Text) :
    ∃ k ≤ t.length, Tries t 0 k ∧ freeMarker t = marker k := by
  obtain ⟨n, hn, hfree⟩ := exists_free_marker t
  obtain ⟨k, hk, htries⟩ := exists_tries hfree (Nat.zero_le n)
  have hlength : k ≤ t.length := by omega
  exact ⟨k, hlength, htries, freeMarker_eq_of_tries htries hlength⟩

end Text

namespace Rule

/-! ### Reading -/

variable {α β : Type} {c mid : Cursor} {v s rest : Text}

/-- Behind something that is found at once, reading goes on as if it began there. -/
theorem bind_of_found {r : Rule α} {f : α → Rule β} {a : α} (h : r c = .found a mid []) :
    (r >>= f) c = f a mid := by
  rw [bind_apply, h]
  exact Outcome.after_nil _

/-- What the rule finds it finds at once: nothing has been looked for in vain on the way. -/
def Direct (r : Rule α) : Prop :=
  ∀ c a next notes, r c = .found a next notes → notes = []

theorem direct_pure (a : α) : Direct (pure a : Rule α) := by
  rintro c b next notes ⟨⟩
  rfl

theorem direct_rest : Direct Rule.rest := by
  rintro c t next notes ⟨⟩
  rfl

theorem direct_advance (taken : Text) : Direct (advance taken) := by
  rintro c u next notes ⟨⟩
  rfl

theorem direct_of_not_finds {r : Rule α} (h : ∀ c a next, ¬ Finds r c a next) : Direct r :=
  fun c a next notes hr => absurd ⟨notes, hr⟩ (h c a next)

theorem Direct.bind {r : Rule α} {f : α → Rule β} (hr : Direct r) (hf : ∀ a, Direct (f a)) :
    Direct (r >>= f) := by
  intro c b next notes h
  obtain ⟨a, mid, ⟨first, hfirst⟩, ⟨more, hmore⟩⟩ := finds_bind.1 ⟨notes, h⟩
  obtain rfl := hr c a mid first hfirst
  rw [bind_of_found hfirst] at h
  exact hf a mid b next notes h

theorem direct_stringHere : Direct stringHere := by
  refine direct_rest.bind fun t => ?_
  split
  · split
    · exact (direct_advance _).bind fun _ => direct_pure _
    · exact direct_of_not_finds fun _ _ _ => not_finds_unclosed
  · split
    · split
      · exact (direct_advance _).bind fun _ => direct_pure _
      · exact direct_of_not_finds fun _ _ _ => not_finds_unclosed
    · exact direct_of_not_finds fun _ _ _ => not_finds_failure

theorem stringHere_apply (hs : Text.Spells v s) (hrest : c.rest = s ++ rest) :
    stringHere c = .found v (c.past s) [] := by
  obtain ⟨notes, h⟩ := finds_stringHere.2 ⟨s, rest, hs, hrest, rfl⟩
  rw [h, direct_stringHere _ _ _ _ h]

/-- A string begins with a double quote or with an exclamation mark. -/
theorem exists_cons_of_spells (hs : Text.Spells v s) (rest : Text) :
    ∃ d text, s ++ rest = d :: text ∧ (d = '"' ∨ d = '!') := by
  rcases head?_of_spells hs rest with hhead | ⟨hhead, -⟩
  · obtain ⟨text, heq⟩ := List.head?_eq_some_iff.1 hhead
    exact ⟨_, text, heq, .inl rfl⟩
  · obtain ⟨text, heq⟩ := List.head?_eq_some_iff.1 hhead
    exact ⟨_, text, heq, .inr rfl⟩

/-- In front of a string there is no gap to be skipped. -/
theorem skip_of_spells (hs : Text.Spells v s) (hrest : c.rest = s ++ rest) (gap : Gap) :
    skip gap c = .found () c [] := by
  obtain ⟨d, text, heq, hd⟩ := exists_cons_of_spells hs rest
  have hlead : gap.lead c.rest = [] := by
    refine Gap.lead_of_not_opens ?_
    rw [hrest, heq]
    rcases hd with rfl | rfl <;> cases gap <;> rfl
  rw [skip, hlead, Cursor.past_nil]

theorem string_apply (hs : Text.Spells v s) (hrest : c.rest = s ++ rest) :
    string c = .found (v, c.pos) (c.past s) [] := by
  have hstring :
      (stringHere <|> expect "string".toList : Rule Text) c = .found v (c.past s) [] := by
    rw [orElse_apply, stringHere_apply hs hrest]
  rw [string, bind_of_found (skip_of_spells hs hrest .anyLine),
    bind_of_found (show here c = .found c.pos c [] from rfl), bind_of_found hstring]
  rfl

theorem shellWord_apply (hs : Text.Spells v s) (hrest : c.rest = s ++ rest) :
    shellWord c = .found v (c.past s) [] := by
  obtain ⟨d, text, heq, hd⟩ := exists_cons_of_spells hs rest
  have hend : ¬ (d = '\r' ∨ d = '\n') := by
    rcases hd with rfl | rfl <;> decide
  rw [shellWord, bind_of_found (skip_of_spells hs hrest .sameLine),
    bind_of_found (show Rule.rest c = .found c.rest c [] from rfl), hrest.trans heq]
  simp only [Bool.or_eq_true, decide_eq_true_eq, if_neg hend, orElse_apply,
    stringHere_apply hs hrest]

end Rule

namespace Text

/-- **What has been written as a string is read back exactly, whatever stands around it.** The
search for a marker comes to an end. Where the spelling of a text stands behind any text and in
front of any other, a string and a word of a shell line are read there: their value is the text,
they end where the other text begins, and nothing has been looked for in vain. A shell line then
goes on with the words that stand behind. -/
theorem spelling_read (before v rest : Text) :
    (∃ k ≤ v.length, Tries v 0 k ∧ freeMarker v = marker k) ∧
    let whole := Cursor.start (before ++ spelling v ++ rest)
    let c := whole.past before
    let next := whole.past (before ++ spelling v)
    c.offset = before.length ∧ next.offset = before.length + (spelling v).length ∧
      next.rest = rest ∧
      Rule.stringHere c = .found v next [] ∧
      Rule.string c = .found (v, c.pos) next [] ∧
      Rule.shellWord c = .found v next [] ∧
      Rule.many Rule.shellWord c =
        (Rule.many Rule.shellWord next).andThen fun words last => .found (v :: words) last [] := by
  refine ⟨exists_tries_freeMarker v, ?_⟩
  intro whole c next
  have hs := spells_spelling v
  have hrest : c.rest = spelling v ++ rest := Cursor.rest_past (List.append_assoc ..)
  have hnext : next = c.past (spelling v) := Cursor.past_append ..
  have hbehind : next.rest = rest := Cursor.rest_past rfl
  have hword : Rule.shellWord c = .found v next [] := hnext ▸ Rule.shellWord_apply hs hrest
  have hshorter : next.rest.length < c.rest.length := Rule.shortens_shellWord c v next ⟨[], hword⟩
  refine ⟨Nat.zero_add _, ?_, hbehind, ?_, ?_, hword, ?_⟩
  · rw [hnext, Cursor.past]
    exact congrArg (· + _) (Nat.zero_add _)
  · rw [hnext]
    exact Rule.stringHere_apply hs hrest
  · rw [hnext]
    exact Rule.string_apply hs hrest
  · rw [Rule.many_of_found hword hshorter, Outcome.after_nil]

end Text

end KeyMenu
