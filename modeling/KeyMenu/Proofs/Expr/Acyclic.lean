import KeyMenu.Proofs.Expr.Cycle

/-!
# The check of a table of snippets

Nothing is wrong with a table exactly if all its references are names of it and no name leads back
to itself. Where every reference is a name, the check tells one cycle if there is any.

* `Snippets.faults_eq_nil_iff`: a table without faults, said by its references;
* `Snippets.faults_of_cycle`: a table with a cycle.
-/

namespace KeyMenu

open Relation

namespace Snippets

variable {table : Snippets}

/-- A name that leads anywhere is in the table. -/
theorem mem_names_of_transGen {name target : Text} (h : TransGen table.Refers name target) :
    name ∈ table.names := by
  obtain ⟨_, ⟨e, hget, -⟩, -⟩ := TransGen.head'_iff.1 h
  exact Table.get?_isSome_iff.1 (Option.isSome_iff_exists.2 ⟨e, hget⟩)

/-- Where every reference is a name, only a cycle can be wrong. -/
theorem faults_of_defined (h : ∀ p ∈ table, ∀ r ∈ p.2.references, r ∈ table.names) :
    table.faults = table.cycle?.toList.map .cycle := by
  rw [faults, undefinedReferences_eq_nil_iff.2 h]

/-- Nothing is wrong with a table exactly if all its references are names of it and no name leads
back to itself. -/
theorem faults_eq_nil_iff :
    table.faults = [] ↔ (∀ p ∈ table, ∀ r ∈ p.2.references, r ∈ table.names) ∧
      ∀ name, ¬ TransGen table.Refers name name := by
  constructor
  · intro h
    constructor
    · rw [← undefinedReferences_eq_nil_iff]
      cases hundefined : table.undefinedReferences with
      | nil => rfl
      | cons fault more =>
          rw [faults, hundefined] at h
          cases h
    · intro name hcycle
      have hgrounded := grounded_of_faults_nil h name (mem_names_of_transGen hcycle)
      exact hgrounded.not_transGen_self hcycle
  · rintro ⟨hdefined, hacyclic⟩
    rw [faults_of_defined hdefined]
    cases hcycle : table.cycle? with
    | none => rfl
    | some cycle =>
        have hsimple := simpleCycle_of_cycle? hcycle
        obtain ⟨first, more, rfl, -⟩ := id hsimple
        exact absurd hsimple.transGen_self (hacyclic first)

/-- **A cycle is told exactly if there is one, and what is told is a cycle.** Where every reference
is a name of the table, the check gives one message, with the names of a cycle in which no other
name is repeated. An expansion tells such a cycle with any table. -/
theorem faults_of_cycle (table : Snippets) :
    ((∀ p ∈ table, ∀ r ∈ p.2.references, r ∈ table.names) →
      ((∃ names, .cycle names ∈ table.faults) ↔ ∃ name, TransGen table.Refers name name) ∧
      ∀ names, .cycle names ∈ table.faults → table.SimpleCycle names ∧
        table.faults.map SnippetFault.message =
          ["snippet cycle: ".toList ++ Text.joinWith " -> ".toList names]) ∧
    ∀ (e : Expr) names, e.expand table = .error (.cycle names) → table.SimpleCycle names := by
  refine ⟨fun hdefined => ?_, fun e names h => ?_⟩
  · have hmem {names : List Text} : .cycle names ∈ table.faults ↔ table.cycle? = some names := by
      rw [faults_of_defined hdefined]
      simp
    refine ⟨⟨?_, ?_⟩, fun names h => ?_⟩
    · rintro ⟨names, h⟩
      have hsimple := simpleCycle_of_cycle? (hmem.1 h)
      obtain ⟨first, more, rfl, -⟩ := id hsimple
      exact ⟨first, hsimple.transGen_self⟩
    · rintro ⟨name, hname⟩
      cases hcycle : table.cycle? with
      | some names => exact ⟨names, hmem.2 hcycle⟩
      | none =>
          have hfaults : table.faults = [] := by
            rw [faults_of_defined hdefined, hcycle]
            rfl
          exact absurd hname ((faults_eq_nil_iff.1 hfaults).2 name)
    · refine ⟨simpleCycle_of_cycle? (hmem.1 h), ?_⟩
      rw [faults_of_defined hdefined, hmem.1 h]
      rfl
  · cases Expr.blocked_of_expand h with
    | cycle _ hcycle => exact hcycle

/-- A cycle behind a name that is not on it, told from its other name where an expression refers to
that one. -/
theorem faults_of_cycle_behind :
    ∃ table : Snippets,
      table = [("top".toList, [.reference "a".toList]),
        ("a".toList, [.reference "end".toList, .literal "x".toList, .reference "b".toList]),
        ("b".toList, [.reference "end".toList, .reference "a".toList]),
        ("end".toList, [.literal "y".toList])] ∧
      (∀ p ∈ table, ∀ r ∈ p.2.references, r ∈ table.names) ∧
      .cycle ["a".toList, "b".toList, "a".toList] ∈ table.faults ∧
      (table.SimpleCycle ["a".toList, "b".toList, "a".toList] ∧
        table.faults.map SnippetFault.message =
          ["snippet cycle: ".toList ++
            Text.joinWith " -> ".toList ["a".toList, "b".toList, "a".toList]]) ∧
      Expr.expand table [.reference "b".toList] =
        .error (.cycle ["b".toList, "a".toList, "b".toList]) ∧
      table.SimpleCycle ["b".toList, "a".toList, "b".toList] := by
  obtain ⟨table, htable, hdefined, hcycle, hexpand⟩ : ∃ table : Snippets,
      table = [("top".toList, [.reference "a".toList]),
        ("a".toList, [.reference "end".toList, .literal "x".toList, .reference "b".toList]),
        ("b".toList, [.reference "end".toList, .reference "a".toList]),
        ("end".toList, [.literal "y".toList])] ∧
      (∀ p ∈ table, ∀ r ∈ p.2.references, r ∈ table.names) ∧
      table.cycle? = some ["a".toList, "b".toList, "a".toList] ∧
      Expr.expand table [.reference "b".toList] =
        .error (.cycle ["b".toList, "a".toList, "b".toList]) :=
    ⟨_, rfl, by decide, by cbv, by cbv⟩
  obtain ⟨htold, hfailed⟩ := faults_of_cycle table
  have hmem : .cycle ["a".toList, "b".toList, "a".toList] ∈ table.faults := by
    rw [faults_of_defined hdefined, hcycle]
    exact List.mem_singleton_self _
  exact ⟨table, htable, hdefined, hmem, (htold hdefined).2 _ hmem, hexpand, hfailed _ _ hexpand⟩

end Snippets

end KeyMenu
