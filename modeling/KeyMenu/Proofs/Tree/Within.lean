import KeyMenu.Proofs.Tree.Closure
import KeyMenu.Proofs.Tree.Leaf

/-!
# Places within a text

While a text is read, every cursor stands somewhere in it, and everything that is looked for in vain
is noted at a place of it.

* `Cursor.Within text c`, `Expectation.Within text e`: a place of the text, with its offset and its
  position;
* `Rule.Keeps text r`: from places of the text the rule gets to places of the text, and notes no
  others;
* `Rule.closed_keeps`, `Rule.keeps_file`: all rules of the grammar do so.
-/

namespace KeyMenu

/-! ### Places -/

/-- The cursor stands in the text, in front of what it says is still to be read, and its position
is the one counted there. -/
structure Cursor.Within (text : Text) (c : Cursor) : Prop where
  le_length : c.offset ≤ text.length
  rest : c.rest = text.drop c.offset
  pos : c.pos = .behind (text.take c.offset)

/-- The place of the expectation lies in the text, and its position is the one counted there. -/
structure Expectation.Within (text : Text) (e : Expectation) : Prop where
  le_length : e.offset ≤ text.length
  pos : e.pos = .behind (text.take e.offset)

/-- Where a rule stops and what it notes lies in the text. -/
inductive Outcome.Within (text : Text) {α : Type} : Outcome α → Prop
  | found {a : α} {next : Cursor} {notes : List Expectation} (hnext : next.Within text)
      (hnotes : ∀ e ∈ notes, e.Within text) : Within text (.found a next notes)
  | absent {notes : List Expectation} (hnotes : ∀ e ∈ notes, e.Within text) :
      Within text (.absent notes)
  | failed {notes : List Expectation} (hnotes : ∀ e ∈ notes, e.Within text) :
      Within text (.failed notes)
  | strayBlank : Within text .strayBlank

variable {text taken : Text} {c : Cursor}

theorem Cursor.within_start (text : Text) : (Cursor.start text).Within text :=
  ⟨Nat.zero_le _, rfl, rfl⟩

/-- Behind what stands at a place there is a place too. -/
theorem Cursor.Within.past (h : c.Within text) (hp : taken <+: c.rest) :
    (c.past taken).Within text := by
  obtain ⟨more, hmore⟩ := hp
  have htext : text = text.take c.offset ++ (taken ++ more) := by
    rw [hmore, h.rest, List.take_append_drop]
  have hlength : (text.take c.offset).length = c.offset := List.length_take_of_le h.le_length
  have htake : text.take (c.offset + taken.length) = text.take c.offset ++ taken := by
    rw [List.take_add, ← h.rest, ← hmore, List.take_left]
  refine ⟨?_, ?_, ?_⟩
  · have hle := congrArg List.length htext
    rw [List.length_append, List.length_append, hlength] at hle
    simp only [Cursor.past]
    omega
  · simp only [Cursor.past, h.rest, List.drop_drop]
  · simp only [Cursor.past, htake, Position.behind_append, h.pos]

theorem Cursor.Within.expecting (h : c.Within text) (what : Text) :
    (c.expecting what).Within text :=
  ⟨h.le_length, h.pos⟩

theorem forall_mem_nil_within : ∀ e ∈ ([] : List Expectation), e.Within text :=
  fun _ he => absurd he List.not_mem_nil

namespace Outcome.Within

variable {α β : Type} {o : Outcome α} {earlier : List Expectation}

theorem after (ho : o.Within text) (hearlier : ∀ e ∈ earlier, e.Within text) :
    (o.after earlier).Within text := by
  have hnotes {notes : List Expectation} (h : ∀ e ∈ notes, e.Within text) :
      ∀ e ∈ earlier ++ notes, e.Within text := fun e he =>
    (List.mem_append.1 he).elim (hearlier e) (h e)
  cases ho with
  | found hnext h => exact .found hnext (hnotes h)
  | absent h => exact .absent (hnotes h)
  | failed h => exact .failed (hnotes h)
  | strayBlank => exact .strayBlank

theorem andThen {f : α → Cursor → Outcome β} (ho : o.Within text)
    (hf : ∀ a c, c.Within text → (f a c).Within text) : (o.andThen f).Within text := by
  cases ho with
  | found hnext h => exact (hf _ _ hnext).after h
  | absent h => exact .absent h
  | failed h => exact .failed h
  | strayBlank => exact .strayBlank

end Outcome.Within

/-! ### Rules -/

namespace Rule

variable {α β : Type} {r s : Rule α} {more : Text}

/-- From places of the text the rule gets to places of the text, and notes no others. -/
def Keeps (text : Text) {α : Type} (r : Rule α) : Prop :=
  ∀ c : Cursor, c.Within text → (r c).Within text

/-- From places of the text in front of `more` the rule does so. -/
def KeepsBefore (text more : Text) {α : Type} (r : Rule α) : Prop :=
  ∀ c : Cursor, c.Within text → c.rest = more → (r c).Within text

theorem Keeps.before (hr : Keeps text r) : KeepsBefore text more r := fun c hc _ => hr c hc

theorem Keeps.bind {f : α → Rule β} (hr : Keeps text r) (hf : ∀ a, Keeps text (f a)) :
    Keeps text (r >>= f) := fun c hc => (hr c hc).andThen hf

/-- What follows may depend on the text that is still to be read. -/
theorem keeps_rest_bind {f : Text → Rule α} (h : ∀ more, KeepsBefore text more (f more)) :
    Keeps text (Rule.rest >>= f) := fun c hc => by
  have hf := h c.rest c hc rfl
  rwa [← Outcome.after_nil (f c.rest c)] at hf

theorem keeps_pure (a : α) : Keeps text (pure a : Rule α) :=
  fun _ hc => .found hc forall_mem_nil_within

theorem keeps_failure : Keeps text (failure : Rule α) := fun _ _ => .absent forall_mem_nil_within

theorem keeps_here : Keeps text here := fun _ hc => .found hc forall_mem_nil_within

theorem keeps_rest : Keeps text rest := fun _ hc => .found hc forall_mem_nil_within

theorem keeps_expect (what : Text) : Keeps text (expect what : Rule α) :=
  fun _ hc => .absent (List.forall_mem_singleton.2 (hc.expecting what))

/-- What stands in front may be taken. -/
theorem keepsBefore_advance (hp : taken <+: more) : KeepsBefore text more (advance taken) :=
  fun _ hc hrest => .found (hc.past (hrest ▸ hp)) forall_mem_nil_within

theorem keepsBefore_advance_bind {f : Unit → Rule α} (hp : taken <+: more)
    (hf : Keeps text (f ())) : KeepsBefore text more (advance taken >>= f) :=
  fun c hc hrest => (keepsBefore_advance hp c hc hrest).andThen fun _ => hf

theorem KeepsBefore.orElse (hr : KeepsBefore text more r) (hs : KeepsBefore text more s) :
    KeepsBefore text more (r <|> s) := fun c hc hrest => by
  have h := hr c hc hrest
  rw [orElse_apply]
  cases hrc : r c with
  | absent notes =>
      rw [hrc] at h
      cases h with
      | absent hnotes => exact (hs c hc hrest).after hnotes
  | found _ _ _ | failed _ | strayBlank => rwa [hrc] at h

theorem Keeps.orElse (hr : Keeps text r) (hs : Keeps text s) : Keeps text (r <|> s) :=
  fun c hc => hr.before.orElse hs.before c hc rfl

theorem Keeps.commit (hr : Keeps text r) : Keeps text (commit r) := fun c hc => by
  have h := hr c hc
  rw [commit_apply]
  cases hrc : r c with
  | absent notes =>
      rw [hrc] at h
      cases h with
      | absent hnotes => exact .failed hnotes
  | found _ _ _ | failed _ | strayBlank => rwa [hrc] at h

/-- Round by round a repetition stays in the text. -/
theorem Keeps.many (hr : Keeps text r) : Keeps text (many r) := by
  intro c hc
  have h := hr c hc
  fun_induction Rule.many r c with
  | case1 c a next notes hrc _ ih =>
      rw [hrc] at h
      cases h with
      | found hnext hnotes =>
          have hmore := ih hnext (hr next hnext)
          refine Outcome.Within.after (hmore.andThen fun _ _ hlast => ?_) hnotes
          exact .found hlast forall_mem_nil_within
  | case2 c a next notes hrc _ =>
      rw [hrc] at h
      cases h with
      | found hnext hnotes => exact .found hnext hnotes
  | case3 c notes hrc =>
      rw [hrc] at h
      cases h with
      | absent hnotes => exact .found hc hnotes
  | case4 c notes hrc =>
      rw [hrc] at h
      cases h with
      | failed hnotes => exact .failed hnotes
  | case5 => exact .strayBlank

/-! ### Tokens -/

theorem keeps_skip (gap : Gap) : Keeps text (skip gap) :=
  fun _ hc => .found (hc.past (gap.leadFrom_isPrefix false _)) forall_mem_nil_within

theorem keeps_mark (gap : Gap) (token : Char) : Keeps text (mark gap token) := by
  refine (keeps_skip gap).bind fun _ => keeps_rest_bind fun more => ?_
  split
  · rename_i hhead
    obtain ⟨rest, rfl⟩ := List.head?_eq_some_iff.1 hhead
    exact keepsBefore_advance ⟨rest, rfl⟩
  · exact (keeps_expect _).before

theorem keeps_keyword (word : Text) : Keeps text (keyword word) := by
  refine (keeps_skip _).bind fun _ => keeps_rest_bind fun more => ?_
  split
  · rename_i hword
    rw [Bool.and_eq_true, List.isPrefixOf_iff_prefix] at hword
    exact keepsBefore_advance hword.1
  · exact (keeps_expect _).before

theorem keeps_symbol (what : Text) : Keeps text (symbol what) := by
  refine (keeps_skip _).bind fun _ => keeps_here.bind fun pos => keeps_rest_bind fun more => ?_
  dsimp only
  split
  · exact (keeps_expect _).before
  · exact keepsBefore_advance_bind (List.takeWhile_prefix _) (keeps_pure _)

/-- The end of the text is a place of the text. -/
theorem keeps_unclosed (closing : Text) : Keeps text (unclosed closing : Rule α) := fun _ hc =>
  .failed (List.forall_mem_singleton.2 ((hc.past (List.prefix_refl _)).expecting _))

theorem keeps_stringHere : Keeps text stringHere := by
  refine keeps_rest_bind fun more => ?_
  split
  · rename_i body
    split
    · rename_i value spelling hquoted
      obtain ⟨-, -, rest, rfl⟩ := Text.spelling_of_quotedBody hquoted
      exact keepsBefore_advance_bind ⟨rest, rfl⟩ (keeps_pure _)
    · exact (keeps_unclosed _).before
  · split
    · rename_i marker body hopening
      obtain ⟨rfl, -⟩ := Text.protectedOpening_eq_some_iff.1 hopening
      split
      · rename_i value after hsplit
        obtain rfl := Text.append_of_splitFirst hsplit
        exact keepsBefore_advance_bind ⟨after, by simp⟩ (keeps_pure _)
      · exact (keeps_unclosed _).before
    · exact keeps_failure.before

theorem keeps_string : Keeps text string :=
  (keeps_skip _).bind fun _ => keeps_here.bind fun _ =>
    (keeps_stringHere.orElse (keeps_expect _)).bind fun _ => keeps_pure _

theorem keeps_key : Keeps text key := by
  refine (keeps_skip _).bind fun _ c hc => ?_
  dsimp only
  have hname := hc.past (List.takeWhile_prefix (p := isKeyChar) (l := c.rest))
  have hnext := hname.past (Gap.leadFrom_isPrefix .sameLine false _)
  have hkey := hc.expecting "key".toList
  split
  · exact .absent (List.forall_mem_singleton.2 hkey)
  · split
    · rename_i hhead
      obtain ⟨more, hmore⟩ := List.head?_eq_some_iff.1 hhead
      exact .found (hnext.past ⟨more, hmore.symm⟩) forall_mem_nil_within
    · split
      · exact .absent (List.forall_mem_singleton.2 hkey)
      · exact .absent (List.forall_mem_cons.2
          ⟨hnext.expecting _, List.forall_mem_singleton.2 hkey⟩)

theorem keeps_referenceHere : Keeps text referenceHere := by
  intro c hc
  rw [referenceHere]
  split
  · rename_i more hmore
    dsimp only
    split
    · refine .failed (List.forall_mem_singleton.2 ((hc.past ?_).expecting _))
      exact ⟨more, hmore.symm⟩
    · refine .found (hc.past ?_) forall_mem_nil_within
      rw [hmore]
      exact List.cons_prefix_cons.2 ⟨rfl, List.takeWhile_prefix _⟩
  · exact .absent (List.forall_mem_singleton.2 (hc.expecting _))

theorem keeps_shellWord : Keeps text shellWord := by
  refine (keeps_skip _).bind fun _ => keeps_rest_bind fun more => ?_
  split
  · exact keeps_failure.before
  · split
    · exact keeps_failure.before
    · refine keeps_stringHere.before.orElse ?_
      dsimp only
      split
      · exact fun _ _ _ => .strayBlank
      · exact keepsBefore_advance_bind (List.takeWhile_prefix _) (keeps_pure _)

theorem keeps_shellWords : Keeps text shellWords := by
  refine keeps_shellWord.many.bind fun words => ?_
  split
  · exact keeps_pure _
  · exact (keeps_skip _).bind fun _ => (keeps_expect _).commit

/-! ### The grammar -/

theorem closed_keeps (text : Text) : Closed (@Keeps text) where
  skip := keeps_skip
  here := keeps_here
  rest := keeps_rest
  expect := keeps_expect
  mark := keeps_mark
  keyword := keeps_keyword
  symbol := keeps_symbol
  string := keeps_string
  key := keeps_key
  referenceHere := keeps_referenceHere
  pure := keeps_pure
  failure := keeps_failure
  bind := .bind
  orElse := .orElse
  commit := .commit
  many := .many

theorem keeps_shellLine : Keeps text shellLine :=
  (keeps_skip _).bind fun _ => keeps_here.bind fun _ =>
    (keeps_keyword _).bind fun _ => keeps_shellWords.bind fun _ => keeps_pure _

/-- Reading a whole file stays in its text. -/
theorem keeps_file : Keeps text file := (closed_keeps text).file keeps_shellLine

end Rule

end KeyMenu
