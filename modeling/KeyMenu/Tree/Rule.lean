import KeyMenu.Tree.Cursor

/-!
# Grammar rules

A rule looks at a cursor and ends in one of four ways (`Outcome`): it finds a value, it does not
begin here, it has begun and cannot be finished, or a shell line meets white space at which it can
neither stop nor begin a word. All but the last report what was looked for in vain.

Rules form a monad. `r <|> s` tries `s` where `r` does not begin, `Rule.commit r` turns "does not
begin" into "cannot be finished", and `Rule.many r` repeats `r`. A rule that does not begin leaves
the cursor where it was.
-/

namespace KeyMenu

/-- How a rule ends, with what was looked for in vain on the way. -/
inductive Outcome (α : Type)
  | found (value : α) (next : Cursor) (notes : List Expectation)
  | absent (notes : List Expectation)
  | failed (notes : List Expectation)
  | strayBlank
  deriving DecidableEq

namespace Outcome

/-- The outcome, with the expectations of an earlier part put in front. -/
def after {α : Type} (earlier : List Expectation) : Outcome α → Outcome α
  | .found value next notes => .found value next (earlier ++ notes)
  | .absent notes => .absent (earlier ++ notes)
  | .failed notes => .failed (earlier ++ notes)
  | .strayBlank => .strayBlank

@[simp] theorem after_nil {α : Type} (o : Outcome α) : o.after [] = o := by
  cases o <;> rfl

theorem after_append {α : Type} (s t : List Expectation) (o : Outcome α) :
    o.after (s ++ t) = (o.after t).after s := by
  cases o <;> simp [after]

/-- Continue with `f` where something was found. -/
def andThen {α β : Type} (o : Outcome α) (f : α → Cursor → Outcome β) : Outcome β :=
  match o with
  | .found value next notes => (f value next).after notes
  | .absent notes => .absent notes
  | .failed notes => .failed notes
  | .strayBlank => .strayBlank

end Outcome

/-- A rule of the grammar. -/
def Rule (α : Type) : Type := Cursor → Outcome α

namespace Rule

variable {α β : Type}

instance : Monad Rule where
  pure a := fun c => .found a c []
  bind r f := fun c => (r c).andThen f

instance : Alternative Rule where
  failure := fun _ => .absent []
  orElse r s := fun c =>
    match r c with
    | .absent notes => (s () c).after notes
    | other => other

theorem pure_apply (a : α) (c : Cursor) : (pure a : Rule α) c = .found a c [] := rfl

theorem bind_apply (r : Rule α) (f : α → Rule β) (c : Cursor) :
    (r >>= f) c = (r c).andThen f := rfl

/-- Once begun, the rule must be finished. -/
def commit (r : Rule α) : Rule α := fun c =>
  match r c with
  | .absent notes => .failed notes
  | other => other

/-- Does not begin here; `what` would have. -/
def expect (what : Text) : Rule α := fun c => .absent [c.expecting what]

/-- The position of the cursor. -/
def here : Rule Position := fun c => .found c.pos c []

/-- The rest of the text. -/
def rest : Rule Text := fun c => .found c.rest c []

/-- Moves past `taken`, which stands at the cursor. -/
def advance (taken : Text) : Rule Unit := fun c => .found () (c.past taken) []

/-- Stops for good at white space inside a shell line. -/
def strayBlank : Rule α := fun _ => .strayBlank

/-- The values that the rule finds one after the other, until it does not begin. A value that
takes no text ends the list. -/
def many (r : Rule α) (c : Cursor) : Outcome (List α) :=
  match r c with
  | .found value next notes =>
      if next.rest.length < c.rest.length then
        ((many r next).andThen fun values last => .found (value :: values) last []).after notes
      else .found [value] next notes
  | .absent notes => .found [] c notes
  | .failed notes => .failed notes
  | .strayBlank => .strayBlank
termination_by c.rest.length

theorem many_of_absent {r : Rule α} {c : Cursor} {notes : List Expectation}
    (h : r c = .absent notes) : many r c = .found [] c notes := by
  rw [many, h]

theorem many_of_found {r : Rule α} {c next : Cursor} {value : α} {notes : List Expectation}
    (h : r c = .found value next notes) (hlt : next.rest.length < c.rest.length) :
    many r c =
      ((many r next).andThen fun values last => .found (value :: values) last []).after notes := by
  rw [many, h]
  simp [hlt]

/-- Like `many`, but there must be a value. -/
def oneOrMore (r : Rule α) : Rule (List α) := do
  let first ← r
  let more ← many r
  return first :: more

end Rule

end KeyMenu
