import KeyMenu.Text.Basic

/-!
# Tables

A table gives values to names and remembers the order in which the names came: entries of a menu,
snippets of a configuration, variables of an environment.

* `Table.get?`: the value of a name, the first where a name stands twice;
* `Table.put`: a new name goes to the end, a known one keeps its place;
* `Table.sameAs`: equality up to order.
-/

namespace KeyMenu

/-- Values under names, in order. -/
abbrev Table (α : Type) := List (Text × α)

namespace Table

variable {α : Type}

/-- The value of a name. -/
def get? : Table α → Text → Option α
  | [], _ => none
  | (key, value) :: rest, name => if key = name then some value else get? rest name

@[simp] theorem get?_nil (name : Text) : get? ([] : Table α) name = none := rfl

theorem get?_cons (key : Text) (value : α) (rest : Table α) (name : Text) :
    get? ((key, value) :: rest) name = if key = name then some value else get? rest name := rfl

/-- The names of a table, in order. -/
def names (t : Table α) : List Text := t.map Prod.fst

@[simp] theorem names_nil : names ([] : Table α) = [] := rfl

@[simp] theorem names_cons (key : Text) (value : α) (rest : Table α) :
    names ((key, value) :: rest) = key :: names rest := rfl

theorem mem_of_get? {t : Table α} {name : Text} {value : α} (h : t.get? name = some value) :
    (name, value) ∈ t := by
  induction t with
  | nil => simp at h
  | cons head rest ih =>
      obtain ⟨key, v⟩ := head
      rw [get?_cons] at h
      by_cases hk : key = name
      · rw [if_pos hk] at h
        simp [← Option.some.inj h, hk]
      · rw [if_neg hk] at h
        exact List.mem_cons_of_mem _ (ih h)

theorem get?_isSome_iff {t : Table α} {name : Text} :
    (t.get? name).isSome = true ↔ name ∈ t.names := by
  induction t with
  | nil => simp
  | cons head rest ih =>
      obtain ⟨key, v⟩ := head
      rw [get?_cons, names_cons, List.mem_cons]
      by_cases hk : key = name
      · simp [hk]
      · rw [if_neg hk, ih]
        simp [Ne.symm hk]

theorem get?_eq_none_iff {t : Table α} {name : Text} : t.get? name = none ↔ name ∉ t.names := by
  rw [← get?_isSome_iff]
  cases t.get? name <;> simp

/-- Where all names differ, each name has the value that stands beside it. -/
theorem get?_eq_some_iff {t : Table α} (h : t.names.Nodup) {name : Text} {value : α} :
    t.get? name = some value ↔ (name, value) ∈ t := by
  refine ⟨mem_of_get?, fun hmem => ?_⟩
  induction t with
  | nil => cases hmem
  | cons head rest ih =>
      obtain ⟨key, v⟩ := head
      rw [names_cons, List.nodup_cons] at h
      rw [get?_cons]
      rcases List.mem_cons.1 hmem with heq | hrest
      · cases heq
        exact if_pos rfl
      · have hne : key ≠ name := fun he => h.1 (he ▸ List.mem_map_of_mem hrest)
        rw [if_neg hne]
        exact ih h.2 hrest

/-- Gives a name a value: in its place if the table has the name, else at the end. -/
def put : Table α → Text → α → Table α
  | [], name, value => [(name, value)]
  | (key, old) :: rest, name, value =>
      if key = name then (key, value) :: rest else (key, old) :: put rest name value

@[simp] theorem get?_put_self (t : Table α) (name : Text) (value : α) :
    (t.put name value).get? name = some value := by
  induction t with
  | nil => simp [put, get?_cons]
  | cons head rest ih =>
      obtain ⟨key, old⟩ := head
      by_cases hk : key = name
      · simp [put, hk, get?_cons]
      · simp [put, hk, get?_cons, ih]

theorem get?_put_of_ne (t : Table α) {name other : Text} (value : α) (h : other ≠ name) :
    (t.put name value).get? other = t.get? other := by
  induction t with
  | nil => simp [put, get?_cons, Ne.symm h]
  | cons head rest ih =>
      obtain ⟨key, old⟩ := head
      by_cases hk : key = name
      · subst hk
        simp [put, get?_cons, Ne.symm h]
      · by_cases ho : key = other
        · simp [put, get?_cons, ho, h]
        · simp [put, hk, get?_cons, ho, ih]

/-- Puts all pairs into a table, one after the other. -/
def putAll (t : Table α) (pairs : List (Text × α)) : Table α :=
  pairs.foldl (fun t (name, value) => put t name value) t

/-- The table of a list of pairs: a name keeps its first place and takes its last value. -/
def ofPairs (pairs : List (Text × α)) : Table α := putAll [] pairs

/-- The two tables give the same values to the same names. -/
def sameAs (same : α → α → Bool) (s t : Table α) : Bool :=
  s.length == t.length && s.all fun (name, value) => (t.get? name).any (same value)

end Table

end KeyMenu
