import KeyMenu.Tree.Rule

/-!
# What rules find

Which values a rule finds, and where it does not begin, without what was looked for in vain on
the way.

* `Rule.Finds r c a next`: at the cursor `c` the rule `r` finds `a` and stops at `next`;
* `Rule.Misses r c`: the rule does not begin at `c`;
* one equivalence for each way of putting rules together; `Repeats` is the meaning of `many`.

The two relations exclude each other (`Misses.not_finds`), and a rule finds one value at most
(`Finds.unique`).
-/

namespace KeyMenu.Rule

variable {α β : Type}

/-- At `c` the rule finds `a` and stops at `next`. -/
def Finds (r : Rule α) (c : Cursor) (a : α) (next : Cursor) : Prop :=
  ∃ notes, r c = .found a next notes

/-- The rule does not begin at `c`. -/
def Misses (r : Rule α) (c : Cursor) : Prop := ∃ notes, r c = .absent notes

theorem Finds.unique {r : Rule α} {c next next' : Cursor} {a a' : α} (h : Finds r c a next)
    (h' : Finds r c a' next') : a = a' ∧ next = next' := by
  obtain ⟨notes, h⟩ := h
  obtain ⟨notes', h'⟩ := h'
  rw [h] at h'
  cases h'
  exact ⟨rfl, rfl⟩

theorem Misses.not_finds {r : Rule α} {c : Cursor} (h : Misses r c) {a : α} {next : Cursor} :
    ¬ Finds r c a next := by
  rintro ⟨notes, hf⟩
  obtain ⟨notes', hm⟩ := h
  rw [hm] at hf
  cases hf

/-! ### Sequences -/

@[simp] theorem finds_pure {a b : α} {c next : Cursor} :
    Finds (pure a) c b next ↔ b = a ∧ next = c := by
  constructor
  · rintro ⟨notes, h⟩
    cases h
    exact ⟨rfl, rfl⟩
  · rintro ⟨rfl, rfl⟩
    exact ⟨[], rfl⟩

@[simp] theorem not_misses_pure {a : α} {c : Cursor} : ¬ Misses (pure a) c := by
  rintro ⟨notes, h⟩
  cases h

theorem finds_bind {r : Rule α} {f : α → Rule β} {c next : Cursor} {b : β} :
    Finds (r >>= f) c b next ↔ ∃ a mid, Finds r c a mid ∧ Finds (f a) mid b next := by
  constructor
  · rintro ⟨notes, h⟩
    rw [bind_apply] at h
    cases hr : r c with
    | found a mid first =>
        simp only [hr, Outcome.andThen] at h
        cases hf : f a mid with
        | found b' last more =>
            rw [hf] at h
            cases h
            exact ⟨a, mid, ⟨first, hr⟩, ⟨more, hf⟩⟩
        | absent _ | failed _ | strayBlank => rw [hf] at h; cases h
    | absent _ | failed _ | strayBlank => rw [hr] at h; cases h
  · rintro ⟨a, mid, ⟨first, hr⟩, ⟨more, hf⟩⟩
    refine ⟨first ++ more, ?_⟩
    simp only [bind_apply, hr, hf, Outcome.andThen, Outcome.after]

theorem misses_bind {r : Rule α} {f : α → Rule β} {c : Cursor} :
    Misses (r >>= f) c ↔ Misses r c ∨ ∃ a mid, Finds r c a mid ∧ Misses (f a) mid := by
  constructor
  · rintro ⟨notes, h⟩
    rw [bind_apply] at h
    cases hr : r c with
    | found a mid first =>
        simp only [hr, Outcome.andThen] at h
        cases hf : f a mid with
        | absent more => exact .inr ⟨a, mid, ⟨first, hr⟩, ⟨more, hf⟩⟩
        | found _ _ _ | failed _ | strayBlank => rw [hf] at h; cases h
    | absent first => exact .inl ⟨first, hr⟩
    | failed _ | strayBlank => rw [hr] at h; cases h
  · rintro (⟨first, hr⟩ | ⟨a, mid, ⟨first, hr⟩, ⟨more, hf⟩⟩)
    · exact ⟨first, by simp only [bind_apply, hr, Outcome.andThen]⟩
    · exact ⟨first ++ more, by
        simp only [bind_apply, hr, hf, Outcome.andThen, Outcome.after]⟩

theorem Finds.bind {r : Rule α} {f : α → Rule β} {c mid next : Cursor} {a : α} {b : β}
    (hr : Finds r c a mid) (hf : Finds (f a) mid b next) : Finds (r >>= f) c b next :=
  finds_bind.2 ⟨a, mid, hr, hf⟩

theorem Misses.bind {r : Rule α} {f : α → Rule β} {c : Cursor} (h : Misses r c) :
    Misses (r >>= f) c := misses_bind.2 (.inl h)

theorem Finds.misses_bind {r : Rule α} {f : α → Rule β} {c mid : Cursor} {a : α}
    (hr : Finds r c a mid) (hf : Misses (f a) mid) : Misses (r >>= f) c :=
  Rule.misses_bind.2 (.inr ⟨a, mid, hr, hf⟩)

/-! ### Choices -/

/-- The second rule is tried where the first one does not begin. -/
theorem orElse_apply (r s : Rule α) (c : Cursor) :
    (r <|> s) c = match r c with
      | .absent notes => (s c).after notes
      | other => other := rfl

theorem finds_orElse {r s : Rule α} {c next : Cursor} {a : α} :
    Finds (r <|> s) c a next ↔ Finds r c a next ∨ Misses r c ∧ Finds s c a next := by
  constructor
  · rintro ⟨notes, h⟩
    rw [orElse_apply] at h
    cases hr : r c with
    | found b mid first => rw [hr] at h; cases h; exact .inl ⟨_, hr⟩
    | absent first =>
        cases hs : s c with
        | found b last more =>
            rw [hr, hs] at h
            cases h
            exact .inr ⟨⟨first, hr⟩, ⟨more, hs⟩⟩
        | absent _ | failed _ | strayBlank => rw [hr, hs] at h; cases h
    | failed _ | strayBlank => rw [hr] at h; cases h
  · rintro (⟨notes, hr⟩ | ⟨⟨first, hr⟩, ⟨more, hs⟩⟩)
    · exact ⟨notes, by rw [orElse_apply, hr]⟩
    · exact ⟨first ++ more, by rw [orElse_apply, hr]; simp only [hs, Outcome.after]⟩

theorem misses_orElse {r s : Rule α} {c : Cursor} :
    Misses (r <|> s) c ↔ Misses r c ∧ Misses s c := by
  constructor
  · rintro ⟨notes, h⟩
    rw [orElse_apply] at h
    cases hr : r c with
    | absent first =>
        cases hs : s c with
        | absent more => exact ⟨⟨first, hr⟩, ⟨more, hs⟩⟩
        | found _ _ _ | failed _ | strayBlank => rw [hr, hs] at h; cases h
    | found _ _ _ | failed _ | strayBlank => rw [hr] at h; cases h
  · rintro ⟨⟨first, hr⟩, ⟨more, hs⟩⟩
    exact ⟨first ++ more, by rw [orElse_apply, hr]; simp only [hs, Outcome.after]⟩

@[simp] theorem not_finds_failure {c next : Cursor} {a : α} :
    ¬ Finds (failure : Rule α) c a next := by
  rintro ⟨notes, h⟩
  cases h

@[simp] theorem misses_failure {c : Cursor} : Misses (failure : Rule α) c := ⟨[], rfl⟩

theorem finds_optional {r : Rule α} {c next : Cursor} {o : Option α} :
    Finds (optional r) c o next ↔
      (∃ a, o = some a ∧ Finds r c a next) ∨ o = none ∧ next = c ∧ Misses r c := by
  have hmap {a : Option α} : Finds (some <$> r) c a next ↔ ∃ b, a = some b ∧ Finds r c b next := by
    change Finds (r >>= fun b => pure (some b)) c a next ↔ _
    rw [finds_bind]
    constructor
    · rintro ⟨b, mid, hr, hp⟩
      obtain ⟨rfl, rfl⟩ := finds_pure.1 hp
      exact ⟨b, rfl, hr⟩
    · rintro ⟨b, rfl, hr⟩
      exact ⟨b, next, hr, finds_pure.2 ⟨rfl, rfl⟩⟩
  have hmiss : Misses (some <$> r) c ↔ Misses r c := by
    change Misses (r >>= fun b => pure (some b)) c ↔ _
    rw [misses_bind]
    simp
  change Finds (some <$> r <|> pure none) c o next ↔ _
  rw [finds_orElse, hmap, hmiss, finds_pure]
  constructor
  · rintro (h | ⟨hm, rfl, rfl⟩)
    · exact .inl h
    · exact .inr ⟨rfl, rfl, hm⟩
  · rintro (h | ⟨rfl, rfl, hm⟩)
    · exact .inl h
    · exact .inr ⟨hm, rfl, rfl⟩

theorem Finds.to_optional {r : Rule α} {c next : Cursor} {a : α} (h : Finds r c a next) :
    Finds (optional r) c (some a) next := finds_optional.2 (.inl ⟨a, rfl, h⟩)

theorem Misses.to_optional {r : Rule α} {c : Cursor} (h : Misses r c) :
    Finds (optional r) c none c := finds_optional.2 (.inr ⟨rfl, rfl, h⟩)

/-- Nothing may be absent after a commitment. -/
theorem commit_apply (r : Rule α) (c : Cursor) :
    commit r c = match r c with
      | .absent notes => .failed notes
      | other => other := rfl

theorem finds_commit {r : Rule α} {c next : Cursor} {a : α} :
    Finds (commit r) c a next ↔ Finds r c a next := by
  constructor
  · rintro ⟨notes, h⟩
    rw [commit_apply] at h
    cases hr : r c with
    | found b mid first => rw [hr] at h; cases h; exact ⟨_, hr⟩
    | absent _ | failed _ | strayBlank => rw [hr] at h; cases h
  · rintro ⟨notes, hr⟩
    exact ⟨notes, by rw [commit_apply, hr]⟩

theorem not_misses_commit {r : Rule α} {c : Cursor} : ¬ Misses (commit r) c := by
  rintro ⟨notes, h⟩
  rw [commit_apply] at h
  cases hr : r c with
  | absent _ | found _ _ _ | failed _ | strayBlank => rw [hr] at h; cases h

/-! ### Repetition -/

/-- The rule finds the values one after the other, from `c` to `next`, and does not begin there. -/
inductive Repeats (r : Rule α) : Cursor → List α → Cursor → Prop
  | done {c : Cursor} : Misses r c → Repeats r c [] c
  | again {c mid next : Cursor} {a : α} {values : List α} : Finds r c a mid →
      mid.rest.length < c.rest.length → Repeats r mid values next → Repeats r c (a :: values) next

/-- Whatever the rule finds takes text away. -/
def Shortens (r : Rule α) : Prop :=
  ∀ c a next, Finds r c a next → next.rest.length < c.rest.length

theorem Repeats.finds_many {r : Rule α} {c next : Cursor} {values : List α}
    (h : Repeats r c values next) : Finds (many r) c values next := by
  induction h with
  | done hm =>
      obtain ⟨notes, hm⟩ := hm
      exact ⟨notes, many_of_absent hm⟩
  | again hf hlt _ ih =>
      obtain ⟨first, hf⟩ := hf
      obtain ⟨more, ih⟩ := ih
      refine ⟨first ++ (more ++ []), ?_⟩
      rw [many_of_found hf hlt, ih]
      rfl

/-- A repetition ends where it begins, or behind a first value that takes no text, or where it ends
behind a first value that does. -/
theorem cases_of_finds_many {r : Rule α} {c next : Cursor} {values : List α}
    (h : Finds (many r) c values next) :
    (values = [] ∧ next = c ∧ Misses r c) ∨ ∃ a mid, Finds r c a mid ∧
      (next = mid ∧ ¬ mid.rest.length < c.rest.length ∨ mid.rest.length < c.rest.length ∧
        ∃ more, values = a :: more ∧ Finds (many r) mid more next) := by
  obtain ⟨notes, h⟩ := h
  cases hc : r c with
  | found a mid first =>
      refine .inr ⟨a, mid, ⟨first, hc⟩, ?_⟩
      by_cases hlt : mid.rest.length < c.rest.length
      · rw [many_of_found hc hlt] at h
        cases hm : many r mid with
        | found more last rest =>
            simp only [hm, Outcome.andThen, Outcome.after] at h
            cases h
            exact .inr ⟨hlt, more, rfl, rest, hm⟩
        | absent _ | failed _ | strayBlank => rw [hm] at h; cases h
      · rw [many, hc] at h
        simp only [if_neg hlt] at h
        cases h
        exact .inl ⟨rfl, hlt⟩
  | absent first =>
      rw [many_of_absent hc] at h
      cases h
      exact .inl ⟨rfl, rfl, _, hc⟩
  | failed _ | strayBlank => rw [many, hc] at h; cases h

theorem repeats_of_finds_many {r : Rule α} (hr : Shortens r) {c next : Cursor} {values : List α}
    (h : Finds (many r) c values next) : Repeats r c values next := by
  -- Each round leaves less text, so the induction is on its length.
  induction hn : c.rest.length using Nat.strongRecOn generalizing c values with
  | _ n ih =>
    rcases cases_of_finds_many h with
      ⟨rfl, rfl, hm⟩ | ⟨a, mid, hf, ⟨-, hnot⟩ | ⟨hlt, more, rfl, hmore⟩⟩
    · exact .done hm
    · exact absurd (hr c a mid hf) hnot
    · exact .again hf hlt (ih _ (hn ▸ hlt) hmore rfl)

theorem finds_many {r : Rule α} (hr : Shortens r) {c next : Cursor} {values : List α} :
    Finds (many r) c values next ↔ Repeats r c values next :=
  ⟨repeats_of_finds_many hr, Repeats.finds_many⟩

theorem finds_oneOrMore {r : Rule α} (hr : Shortens r) {c next : Cursor} {values : List α} :
    Finds (oneOrMore r) c values next ↔ values ≠ [] ∧ Repeats r c values next := by
  rw [oneOrMore, finds_bind]
  constructor
  · rintro ⟨first, mid, hf, h⟩
    obtain ⟨more, last, hmany, hp⟩ := finds_bind.1 h
    obtain ⟨rfl, rfl⟩ := finds_pure.1 hp
    exact ⟨List.cons_ne_nil _ _, .again hf (hr _ _ _ hf) ((finds_many hr).1 hmany)⟩
  · rintro ⟨hne, h⟩
    cases h with
    | done _ => exact absurd rfl hne
    | again hf _ hrest =>
        exact ⟨_, _, hf, hrest.finds_many.bind (finds_pure.2 ⟨rfl, rfl⟩)⟩

/-! ### Places and plain text -/

@[simp] theorem finds_here {c next : Cursor} {p : Position} :
    Finds here c p next ↔ p = c.pos ∧ c = next := by
  constructor
  · rintro ⟨notes, h⟩
    cases h
    exact ⟨rfl, rfl⟩
  · rintro ⟨rfl, rfl⟩
    exact ⟨[], rfl⟩

@[simp] theorem not_misses_here {c : Cursor} : ¬ Misses here c := by
  rintro ⟨notes, h⟩
  cases h

@[simp] theorem finds_rest {c next : Cursor} {t : Text} :
    Finds rest c t next ↔ t = c.rest ∧ c = next := by
  constructor
  · rintro ⟨notes, h⟩
    cases h
    exact ⟨rfl, rfl⟩
  · rintro ⟨rfl, rfl⟩
    exact ⟨[], rfl⟩

@[simp] theorem not_misses_rest {c : Cursor} : ¬ Misses rest c := by
  rintro ⟨notes, h⟩
  cases h

@[simp] theorem finds_advance {c next : Cursor} {taken : Text} {u : Unit} :
    Finds (advance taken) c u next ↔ next = c.past taken := by
  constructor
  · rintro ⟨notes, h⟩
    cases h
    rfl
  · rintro rfl
    exact ⟨[], rfl⟩

theorem finds_advance_past (taken : Text) (c : Cursor) :
    Finds (advance taken) c () (c.past taken) := ⟨[], rfl⟩

@[simp] theorem not_misses_advance {c : Cursor} {taken : Text} : ¬ Misses (advance taken) c := by
  rintro ⟨notes, h⟩
  cases h

@[simp] theorem not_finds_expect {c next : Cursor} {a : α} {what : Text} :
    ¬ Finds (expect what) c a next := by
  rintro ⟨notes, h⟩
  cases h

@[simp] theorem misses_expect {c : Cursor} {what : Text} : Misses (expect what : Rule α) c :=
  ⟨_, rfl⟩

end KeyMenu.Rule
