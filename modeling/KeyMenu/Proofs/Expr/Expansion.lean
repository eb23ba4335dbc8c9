import KeyMenu.Expr.Cycle
import Mathlib.Logic.Relation

/-!
# Which expressions expand

A name of a table is grounded if it is defined and everything it refers to is grounded. No grounded
name leads back to itself, so that an expression of grounded references expands. The walk through a
table comes back from grounded names only: where it meets no cycle, every name is grounded.

* `Snippets.Refers`, `Snippets.Grounded`;
* `Expr.exists_expandFrom`: grounded references expand;
* `Expr.expandFrom_eq_of_get?_eq`: only the values of the names count;
* `Snippets.grounded_of_faults_nil`, `Snippets.exists_expand_of_faults_nil`: what the check of a
  table is good for.
-/

namespace KeyMenu

open Relation

namespace Snippets

/-- The snippet of the name refers to the other one. -/
def Refers (table : Snippets) (name reference : Text) : Prop :=
  ∃ e, table.get? name = some e ∧ reference ∈ e.references

/-- The name is defined, and so is, in the end, everything that its snippet refers to. -/
inductive Grounded (table : Snippets) : Text → Prop
  | intro {name : Text} {e : Expr} (hget : table.get? name = some e)
      (hrefs : ∀ reference ∈ e.references, Grounded table reference) : Grounded table name

variable {table : Snippets} {name : Text} {e : Expr}

theorem Grounded.references (h : Grounded table name) (hget : table.get? name = some e) :
    ∀ reference ∈ e.references, Grounded table reference := by
  cases h with
  | intro hget' hrefs =>
      cases hget.symm.trans hget'
      exact hrefs

/-- No way leads from a grounded name back to it. -/
theorem Grounded.not_transGen_self (h : Grounded table name) :
    ¬ TransGen table.Refers name name := by
  induction h with
  | @intro name e hget hrefs ih =>
      intro hcycle
      obtain ⟨reference, ⟨e', hget', hmem⟩, hback⟩ := TransGen.head'_iff.1 hcycle
      cases hget.symm.trans hget'
      -- the cycle can as well be entered one step later
      exact ih reference hmem (TransGen.tail' hback ⟨e, hget, hmem⟩)

/-- What the snippet of a grounded name refers to leads to no name that the grounded name does not
lead to, nor to the grounded name itself. -/
theorem Grounded.not_reflTransGen_of_mem (h : Grounded table name)
    (hget : table.get? name = some e) {path : List Text}
    (hpath : ∀ entered ∈ path, ¬ ReflTransGen table.Refers name entered) {reference : Text}
    (href : reference ∈ e.references) :
    ∀ entered ∈ path ++ [name], ¬ ReflTransGen table.Refers reference entered := by
  intro entered hentered hleads
  rcases List.mem_append.1 hentered with hmem | hmem
  · exact hpath entered hmem (.head ⟨e, hget, href⟩ hleads)
  · cases List.mem_singleton.1 hmem
    exact h.not_transGen_self (.head' ⟨e, hget, href⟩ hleads)

end Snippets

/-! ### Expanding -/

namespace Expr

variable {table : Snippets}

/-- How a reference is expanded. -/
theorem expandFrom_reference_eq (table : Snippets) (path : List Text) (name : Text) (rest : Expr) :
    expandFrom table path (.reference name :: rest) =
      match table.get? name with
      | none => .error (.undefined name)
      | some body =>
          if name ∈ path then .error (.cycle (closedCycle path name))
          else
            match expandFrom table (path ++ [name]) body with
            | .error error => .error error
            | .ok text => (expandFrom table path rest).map (text ++ ·) := by
  rw [expandFrom]
  split
  · next hnone => rw [hnone]
  · next body hsome =>
      simp only [hsome]
      cases expandFrom table (path ++ [name]) body <;> rfl

/-- A reference stands for the expansion of its snippet. -/
theorem expandFrom_reference {path : List Text} {name : Text} {body : Expr} (rest : Expr)
    (hget : table.get? name = some body) (hnew : name ∉ path) {text : Text}
    (hbody : expandFrom table (path ++ [name]) body = .ok text) :
    expandFrom table path (.reference name :: rest) =
      (expandFrom table path rest).map (text ++ ·) := by
  simp only [expandFrom_reference_eq, hget, if_neg hnew, hbody]

/-- An expression has the same expansion, or fails in the same way, with any table that gives the
same snippets to the same names. -/
theorem expandFrom_eq_of_get?_eq {other : Snippets} (h : ∀ name, table.get? name = other.get? name)
    (path : List Text) (e : Expr) : expandFrom table path e = expandFrom other path e := by
  induction path, e using expandFrom.induct table with
  | case1 path => rw [expandFrom, expandFrom]
  | case2 path value rest ih => rw [expandFrom, expandFrom, ih]
  | case3 path element => cases element
  | case4 path name rest hget =>
      rw [expandFrom_reference_eq, expandFrom_reference_eq, ← h name, hget]
  | case5 path name rest body hget hmem =>
      rw [expandFrom_reference_eq, expandFrom_reference_eq, ← h name, hget]
      simp only [if_pos hmem]
  | case6 path name rest body hget hnew error herror ih =>
      rw [expandFrom_reference_eq, expandFrom_reference_eq, ← h name, hget]
      simp only [if_neg hnew, ← ih, herror]
  | case7 path name rest body hget hnew text htext ihbody ihrest =>
      rw [expandFrom_reference_eq, expandFrom_reference_eq, ← h name, hget]
      simp only [if_neg hnew, ← ihbody, htext, ihrest]

/-- An expression of grounded references expands, unless one of them leads to a name that is being
expanded. -/
theorem exists_expandFrom {path : List Text} {e : Expr}
    (hgrounded : ∀ reference ∈ e.references, table.Grounded reference)
    (hpath : ∀ reference ∈ e.references, ∀ name ∈ path,
      ¬ ReflTransGen table.Refers reference name) :
    ∃ text, expandFrom table path e = .ok text := by
  induction path, e using expandFrom.induct table with
  | case1 path => exact ⟨[], by rw [expandFrom]⟩
  | case2 path value rest ih =>
      obtain ⟨text, htext⟩ := ih hgrounded hpath
      exact ⟨value ++ text, by rw [expandFrom, htext]; rfl⟩
  | case3 path element => cases element
  | case4 path name rest hget =>
      cases hgrounded name List.mem_cons_self with
      | intro hget' _ => cases hget.symm.trans hget'
  | case5 path name rest body hget hmem =>
      exact absurd .refl (hpath name List.mem_cons_self name hmem)
  | case6 path name rest body hget hnew error herror ih =>
      have hname := hgrounded name List.mem_cons_self
      obtain ⟨text, htext⟩ := ih (hname.references hget) fun _ href =>
        hname.not_reflTransGen_of_mem hget (hpath name List.mem_cons_self) href
      cases herror.symm.trans htext
  | case7 path name rest body hget hnew text htext ihbody ihrest =>
      obtain ⟨more, hmore⟩ := ihrest (fun r hr => hgrounded r (List.mem_cons_of_mem _ hr))
        fun r hr => hpath r (List.mem_cons_of_mem _ hr)
      exact ⟨text ++ more, by rw [expandFrom_reference rest hget hnew htext, hmore]; rfl⟩

theorem exists_expand {e : Expr} (h : ∀ reference ∈ e.references, table.Grounded reference) :
    ∃ text, e.expand table = .ok text :=
  exists_expandFrom h fun _ _ _ hmem => (List.not_mem_nil hmem).elim

end Expr

namespace Snippets

variable {table : Snippets}

/-- From a name that is met for the first time the walk goes through its snippet, and then on. -/
theorem walk_snippet {path done more : List Text} {name : Text} {e : Expr} (hnew : name ∉ path)
    (hopen : name ∉ done) (hget : table.get? name = some e) :
    walk table path done (name :: more) =
      (walk table (path ++ [name]) done e.references).bind fun found =>
        walk table path (found ++ [name]) more := by
  rw [walk, if_neg hnew, if_neg hopen]
  split
  · next hnone => cases hget.symm.trans hnone
  · next found hfound =>
      cases hget.symm.trans hfound
      cases walk table (path ++ [name]) done e.references <;> rfl

/-- A walk that meets no cycle comes back from grounded names. -/
theorem grounded_of_walk (hdefined : ∀ p ∈ table, ∀ r ∈ p.2.references, r ∈ table.names)
    {path done names done' : List Text} (hnames : ∀ name ∈ names, name ∈ table.names)
    (hdone : ∀ name ∈ done, table.Grounded name) (h : walk table path done names = .ok done') :
    (∀ name ∈ done', table.Grounded name) ∧ done ⊆ done' ∧ names ⊆ done' := by
  induction path, done, names using walk.induct table generalizing done' with
  | case1 path done =>
      rw [walk] at h
      cases h
      exact ⟨hdone, List.Subset.refl _, List.nil_subset _⟩
  | case2 path done name more hmem =>
      rw [walk, if_pos hmem] at h
      cases h
  | case3 path done name more hnew hmem ih =>
      rw [walk, if_neg hnew, if_pos hmem] at h
      obtain ⟨hgrounded, hsub, hmore⟩ :=
        ih (fun n hn => hnames n (List.mem_cons_of_mem _ hn)) hdone h
      exact ⟨hgrounded, hsub, List.cons_subset.2 ⟨hsub hmem, hmore⟩⟩
  | case4 path done name more hnew hopen hget ih =>
      exact absurd (hnames name List.mem_cons_self) (Table.get?_eq_none_iff.1 hget)
  | case5 path done name more hnew hopen e hget cycle hcycle ih =>
      rw [walk_snippet hnew hopen hget, hcycle] at h
      cases h
  | case6 path done name more hnew hopen e hget found hwalk ihbody ihmore =>
      rw [walk_snippet hnew hopen hget, hwalk] at h
      obtain ⟨hfound, hsub, hrefs⟩ :=
        ihbody (hdefined _ (Table.mem_of_get? hget)) hdone hwalk
      -- The name is done after the references of its snippet, which makes it grounded.
      have hname : table.Grounded name := .intro hget fun r hr => hfound r (hrefs hr)
      have hnext : ∀ n ∈ found ++ [name], table.Grounded n := by
        intro n hn
        rcases List.mem_append.1 hn with hn | hn
        · exact hfound n hn
        · cases List.mem_singleton.1 hn
          exact hname
      obtain ⟨hgrounded, hsub', hmore⟩ :=
        ihmore (fun n hn => hnames n (List.mem_cons_of_mem _ hn)) hnext h
      obtain ⟨hfound', hname'⟩ := List.append_subset.1 hsub'
      exact ⟨hgrounded, List.Subset.trans hsub hfound',
        List.cons_subset.2 ⟨hname' List.mem_cons_self, hmore⟩⟩

/-- A table has no undefined references if every reference is one of its names. -/
theorem undefinedReferences_eq_nil_iff :
    table.undefinedReferences = [] ↔ ∀ p ∈ table, ∀ r ∈ p.2.references, r ∈ table.names := by
  rw [undefinedReferences, List.flatMap_eq_nil_iff]
  refine forall₂_congr fun p _ => ?_
  rw [List.map_eq_nil_iff, List.filter_eq_nil_iff]
  refine forall₂_congr fun r _ => ?_
  rw [← Table.get?_isSome_iff]
  cases table.get? r <;> simp

/-- In a table without faults every name is grounded. -/
theorem grounded_of_faults_nil (h : table.faults = []) :
    ∀ name ∈ table.names, table.Grounded name := by
  rw [faults] at h
  cases hundefined : table.undefinedReferences with
  | cons fault more =>
      rw [hundefined] at h
      cases h
  | nil =>
      rw [hundefined] at h
      cases hwalk : walk table [] [] table.names with
      | error cycle =>
          rw [cycle?, hwalk] at h
          cases h
      | ok done =>
          have hstart : ∀ name ∈ ([] : List Text), table.Grounded name :=
            fun name hname => (List.not_mem_nil hname).elim
          obtain ⟨hgrounded, -, hnames⟩ := grounded_of_walk
            (undefinedReferences_eq_nil_iff.1 hundefined) (fun _ hn => hn) hstart hwalk
          exact fun name hname => hgrounded name (hnames hname)

/-- With a table without faults, every expression of defined references expands. -/
theorem exists_expand_of_faults_nil (h : table.faults = []) {e : Expr}
    (hrefs : ∀ name ∈ e.references, ∃ body, table.get? name = some body) :
    ∃ text, e.expand table = .ok text := by
  refine Expr.exists_expand fun name hname => grounded_of_faults_nil h name ?_
  obtain ⟨body, hbody⟩ := hrefs name hname
  exact Table.get?_isSome_iff.1 (Option.isSome_iff_exists.2 ⟨body, hbody⟩)

end Snippets

end KeyMenu
