import KeyMenu.Expr.Basic

/-!
# Expanding expressions

`Expr.expand` replaces every reference by the expansion of the snippet it names. The names that
are being expanded form a path; a reference to a name on the path closes a cycle. Each step down
takes a new name of the table onto the path, so there are finitely many (`Snippets.openNames`).
-/

namespace KeyMenu

/-- Why an expression has no expansion. -/
inductive ExpansionError (ε : Type := Empty)
  | undefined (name : Text)
  | cycle (names : List Text)
  | foreign (element : ε)
  deriving DecidableEq

/-- The names of a cycle as messages show it. -/
def cycleText (names : List Text) : Text :=
  "snippet cycle: ".toList ++ Text.joinWith " -> ".toList names

/-- The wording of a failed expansion; a foreign element has none. -/
def ExpansionError.message {ε : Type} : ExpansionError ε → Text
  | .undefined name => "undefined snippet '".toList ++ name ++ ['\x27']
  | .cycle names => cycleText names
  | .foreign _ => []

/-- The part of a path that a further reference to `name` closes to a cycle. -/
def closedCycle (path : List Text) (name : Text) : List Text :=
  path.dropWhile (· ≠ name) ++ [name]

namespace Snippets

variable {ε : Type}

/-- The number of table entries whose names are not on the path. -/
def openNames (table : Snippets ε) (path : List Text) : Nat :=
  table.countP fun (name, _) => name ∉ path

theorem openNames_cons (name : Text) (e : Expr ε) (rest : Snippets ε) (path : List Text) :
    openNames ((name, e) :: rest) path = openNames rest path + if name ∈ path then 0 else 1 := by
  by_cases h : name ∈ path <;> simp [openNames, h]

/-- A longer path leaves no more names open. -/
theorem openNames_append_le (table : Snippets ε) (path more : List Text) :
    openNames table (path ++ more) ≤ openNames table path := by
  refine List.countP_mono_left fun x _ hx => ?_
  simp only [List.mem_append, not_or, decide_eq_true_eq] at hx ⊢
  exact hx.1

/-- Taking a new name of the table onto the path leaves fewer open. -/
theorem openNames_append_lt {table : Snippets ε} {path : List Text} {name : Text} {e : Expr ε}
    (hget : table.get? name = some e) (hnew : name ∉ path) :
    openNames table (path ++ [name]) < openNames table path := by
  have hmem := Table.mem_of_get? hget
  clear hget
  induction table with
  | nil => simp at hmem
  | cons head rest ih =>
      obtain ⟨key, value⟩ := head
      rw [openNames_cons, openNames_cons]
      have hle := openNames_append_le rest path [name]
      rcases List.mem_cons.1 hmem with heq | hrest
      · have hkey : name = key := congrArg Prod.fst heq
        rw [if_pos (by simp [hkey]), if_neg (hkey ▸ hnew)]
        omega
      · have hlt := ih hrest
        by_cases hp : key ∈ path
        · rw [if_pos (by simp [hp]), if_pos hp]
          omega
        · rw [if_neg hp]
          split <;> omega

end Snippets

namespace Expr

variable {ε : Type}

/-- The expansion of an expression while the names on the path are being expanded. -/
def expandFrom (table : Snippets ε) (path : List Text) (e : Expr ε) :
    Except (ExpansionError ε) Text :=
  match e with
  | [] => .ok []
  | .literal value :: rest => (expandFrom table path rest).map (value ++ ·)
  | .foreign element :: _ => .error (.foreign element)
  | .reference name :: rest =>
      match _hget : table.get? name with
      | none => .error (.undefined name)
      | some body =>
          if name ∈ path then .error (.cycle (closedCycle path name))
          else
            match expandFrom table (path ++ [name]) body with
            | .error error => .error error
            | .ok text => (expandFrom table path rest).map (text ++ ·)
termination_by (table.openNames path, e.length)
decreasing_by
  · exact Prod.Lex.right _ (by simp)
  · exact Prod.Lex.left _ _ (Snippets.openNames_append_lt _hget (by assumption))
  · exact Prod.Lex.right _ (by simp)

/-- The text of an expression with all its references expanded. -/
def expand (table : Snippets ε) (e : Expr ε) : Except (ExpansionError ε) Text :=
  expandFrom table [] e

@[simp] theorem expand_nil (table : Snippets ε) : expand table [] = .ok [] := by
  rw [expand, expandFrom]

end Expr

end KeyMenu
