import KeyMenu.Proofs.Expr.Acyclic
import Mathlib

/-!
# What expressions stand for

An expression stands for the text of its parts from left to right, where a reference stands for what
its snippet stands for. This says nothing about a path of names or an order of search. Expanding
comes to it, and fails exactly where a reference leads to a name without a snippet or to a cycle.

* `Expr.Expands`; `Expr.expands_append_iff`, `Expr.expands_snippet_iff`;
* `Expr.expand_eq_ok_iff`, `Expr.exists_expand_iff`: what comes of expanding, and when;
* `Snippets.faults_eq_nil_iff_expand`: the check of a table, said by expansions;
* `Expr.expand_means`: the main theorem.
-/

namespace KeyMenu

open Relation

namespace Expr

/-- What an expression stands for: a literal for its text, a reference for what its snippet stands
for, one behind the other. -/
inductive Expands (table : Snippets) : Expr → Text → Prop
  | nil : Expands table [] []
  | literal {value text : Text} {rest : Expr} (hrest : Expands table rest text) :
      Expands table (.literal value :: rest) (value ++ text)
  | reference {name value text : Text} {body rest : Expr} (hget : table.get? name = some body)
      (hbody : Expands table body value) (hrest : Expands table rest text) :
      Expands table (.reference name :: rest) (value ++ text)

variable {table : Snippets} {e first second body : Expr} {name text : Text}

/-! ### Parts and snippets -/

theorem Expands.append {more : Text} (h : Expands table first text)
    (h' : Expands table second more) : Expands table (first ++ second) (text ++ more) := by
  induction h with
  | nil => exact h'
  | literal _ ih =>
      rw [List.append_assoc]
      exact .literal ih
  | reference hget hbody _ _ ih =>
      rw [List.append_assoc]
      exact .reference hget hbody ih

/-- What stands for two expressions one behind the other. -/
theorem expands_append_iff : Expands table (first ++ second) text ↔
    ∃ front back, Expands table first front ∧ Expands table second back ∧ text = front ++ back := by
  constructor
  · intro h
    induction first generalizing text with
    | nil => exact ⟨[], text, .nil, h, rfl⟩
    | cons part first ih =>
        cases h with
        | literal hrest =>
            obtain ⟨front, back, hfront, hback, rfl⟩ := ih hrest
            exact ⟨_, back, .literal hfront, hback, (List.append_assoc ..).symm⟩
        | reference hget hbody hrest =>
            obtain ⟨front, back, hfront, hback, rfl⟩ := ih hrest
            exact ⟨_, back, .reference hget hbody hfront, hback, (List.append_assoc ..).symm⟩
  · rintro ⟨front, back, hfront, hback, rfl⟩
    exact hfront.append hback

/-- A reference stands for what its snippet stands for. -/
theorem expands_snippet_iff (hget : table.get? name = some body) :
    Expands table [.reference name] text ↔ Expands table body text := by
  constructor
  · rintro (_ | _ | ⟨hget', hbody, hrest⟩)
    cases hget.symm.trans hget'
    cases hrest
    rwa [List.append_nil]
  · intro h
    rw [← List.append_nil text]
    exact .reference hget h .nil

/-- An expression stands for one text. -/
theorem Expands.unique {other : Text} (h : Expands table e text) (h' : Expands table e other) :
    text = other := by
  induction h generalizing other with
  | nil =>
      cases h'
      rfl
  | literal _ ih =>
      cases h' with
      | literal hrest => rw [ih hrest]
  | reference hget _ _ ihbody ihrest =>
      cases h' with
      | reference hget' hbody hrest =>
          cases hget.symm.trans hget'
          rw [ihbody hbody, ihrest hrest]

/-- In an expression that stands for a text, every reference is grounded. -/
theorem Expands.grounded (h : Expands table e text) :
    ∀ reference ∈ e.references, table.Grounded reference := by
  induction h with
  | nil => exact fun _ hr => (List.not_mem_nil hr).elim
  | literal _ ih => exact ih
  | reference hget _ _ ihbody ihrest =>
      exact List.forall_mem_cons.2 ⟨.intro hget ihbody, ihrest⟩

/-! ### Expanding -/

theorem expands_of_expandFrom {path : List Text} (h : expandFrom table path e = .ok text) :
    Expands table e text := by
  induction path, e using expandFrom.induct table generalizing text with
  | case1 path =>
      rw [expandFrom] at h
      cases h
      exact .nil
  | case2 path value rest ih =>
      cases hrest : expandFrom table path rest with
      | error inner =>
          rw [expandFrom, hrest] at h
          cases h
      | ok more =>
          rw [expandFrom, hrest] at h
          cases h
          exact .literal (ih hrest)
  | case3 path element => cases element
  | case4 path name rest hget =>
      rw [expandFrom_reference_eq, hget] at h
      cases h
  | case5 path name rest body hget hmem =>
      rw [expandFrom_reference_eq, hget] at h
      simp only [if_pos hmem] at h
      cases h
  | case6 path name rest body hget hnew inner hinner ih =>
      rw [expandFrom_reference_eq, hget] at h
      simp only [if_neg hnew, hinner] at h
      cases h
  | case7 path name rest body hget hnew value hvalue ihbody ihrest =>
      rw [expandFrom_reference rest hget hnew hvalue] at h
      cases hrest : expandFrom table path rest with
      | error inner =>
          rw [hrest] at h
          cases h
      | ok more =>
          rw [hrest] at h
          cases h
          exact .reference hget (ihbody hvalue) (ihrest hrest)

/-- Expanding comes to what the expression stands for. -/
theorem expand_eq_ok_iff : e.expand table = .ok text ↔ e.Expands table text := by
  refine ⟨expands_of_expandFrom, fun h => ?_⟩
  obtain ⟨other, hother⟩ := exists_expand h.grounded
  rw [hother, h.unique (expands_of_expandFrom hother)]

end Expr

namespace Snippets

variable {table : Snippets} {name target : Text}

/-- What a grounded name leads to is grounded. -/
theorem Grounded.of_reflTransGen (h : table.Grounded name)
    (hleads : ReflTransGen table.Refers name target) : table.Grounded target := by
  induction hleads with
  | refl => exact h
  | tail _ hrefers ih =>
      obtain ⟨e, hget, hmem⟩ := hrefers
      exact ih.references hget _ hmem

theorem Grounded.mem_names (h : table.Grounded name) : name ∈ table.names := by
  cases h with
  | intro hget _ => exact Table.get?_isSome_iff.1 (Option.isSome_iff_exists.2 ⟨_, hget⟩)

end Snippets

namespace Expr

variable {table : Snippets} {e : Expr}

/-- An expression expands exactly if its references lead to names of the table only, and to no
cycle. -/
theorem exists_expand_iff : (∃ text, e.expand table = .ok text) ↔
    ∀ name, e.Reaches table name → name ∈ table.names ∧ ¬ TransGen table.Refers name name := by
  constructor
  · rintro ⟨text, htext⟩ name ⟨reference, href, hleads⟩
    have hgrounded :=
      ((expand_eq_ok_iff.1 htext).grounded reference href).of_reflTransGen hleads
    exact ⟨hgrounded.mem_names, hgrounded.not_transGen_self⟩
  · intro h
    cases hexpand : e.expand table with
    | ok text => exact ⟨text, rfl⟩
    | error error =>
        cases blocked_of_expand hexpand with
        | undefined hr hname => exact absurd (h _ hr).1 hname
        | cycle hr hcycle => exact absurd hcycle.transGen_self (h _ hr).2

end Expr

/-- Nothing is wrong with a table exactly if every reference to one of its snippets expands. -/
theorem Snippets.faults_eq_nil_iff_expand {table : Snippets} (h : table.names.Nodup) :
    table.faults = [] ↔
      ∀ name ∈ table.names, ∃ text, Expr.expand table [.reference name] = .ok text := by
  constructor
  · intro hfaults name hname
    have hgrounded := grounded_of_faults_nil hfaults name hname
    exact Expr.exists_expand fun reference href => List.mem_singleton.1 href ▸ hgrounded
  · intro hexpand
    have hleads {name target : Text} (hname : name ∈ table.names)
        (hr : ReflTransGen table.Refers name target) :
        target ∈ table.names ∧ ¬ TransGen table.Refers target target :=
      Expr.exists_expand_iff.1 (hexpand name hname) target ⟨name, List.mem_singleton_self _, hr⟩
    refine faults_eq_nil_iff.2 ⟨fun p hp r hr => ?_, fun name hcycle => ?_⟩
    · have hget : table.get? p.1 = some p.2 := (Table.get?_eq_some_iff h).2 hp
      exact (hleads (List.mem_map_of_mem hp) (.single ⟨p.2, hget, hr⟩)).1
    · exact (hleads (mem_names_of_transGen hcycle) .refl).2 hcycle

/-- **Expanding comes to what an expression stands for.** It succeeds exactly if the references lead
to no name without a snippet and to no cycle, and otherwise it tells such a name or cycle. It makes
no difference whether a reference or the parts of its snippet are written. The check of a table
finds nothing exactly if every reference to one of its snippets expands. -/
theorem Expr.expand_means (table : Snippets) :
    (∀ e : Expr,
      ((∃ text, e.expand table = .ok text) ↔
        ∀ name, e.Reaches table name → name ∈ table.names ∧ ¬ TransGen table.Refers name name) ∧
      (∀ text, e.expand table = .ok text ↔ e.Expands table text) ∧
      ∀ error, e.expand table = .error error → e.Blocked table error) ∧
    (∀ (before after : Expr) name body, table.get? name = some body → ∀ text,
      expand table (before ++ .reference name :: after) = .ok text ↔
        expand table (before ++ body ++ after) = .ok text) ∧
    (table.names.Nodup → (table.faults = [] ↔
      ∀ name ∈ table.names, ∃ text, expand table [.reference name] = .ok text)) := by
  refine ⟨fun e => ⟨exists_expand_iff, fun _ => expand_eq_ok_iff, fun _ => blocked_of_expand⟩,
    fun before after name body hget text => ?_, Snippets.faults_eq_nil_iff_expand⟩
  have hcons : Part.reference name :: after = [.reference name] ++ after := rfl
  rw [expand_eq_ok_iff, expand_eq_ok_iff, hcons, ← List.append_assoc]
  simp only [expands_append_iff, expands_snippet_iff hget]

/-- A snippet that is used twice and uses another, and a reference to a name without a snippet. -/
theorem Expr.expand_means_shared :
    ∃ table : Snippets,
      table = [("a".toList, [.reference "b".toList, .literal "x".toList, .reference "b".toList]),
        ("b".toList, [.reference "c".toList, .literal "y".toList]),
        ("c".toList, [.literal "z".toList])] ∧
      expand table [.reference "a".toList] = .ok "zyxzy".toList ∧
      Expands table [.reference "a".toList] "zyxzy".toList ∧
      expand table [.reference "a".toList, .reference "d".toList] =
        .error (.undefined "d".toList) ∧
      Blocked table [.reference "a".toList, .reference "d".toList] (.undefined "d".toList) ∧
      table.get? "b".toList = some [.reference "c".toList, .literal "y".toList] ∧
      expand table ([.literal "<".toList] ++ .reference "b".toList :: [.literal ">".toList]) =
        .ok "<zy>".toList ∧
      expand table ([.literal "<".toList] ++ [.reference "c".toList, .literal "y".toList] ++
        [.literal ">".toList]) = .ok "<zy>".toList ∧
      table.names.Nodup ∧ table.faults = [] ∧
      ∀ name ∈ table.names, ∃ text, expand table [.reference name] = .ok text := by
  obtain ⟨table, htable, hexpand, hfailed, hget, hwhole, hnodup, hfaults⟩ : ∃ table : Snippets,
      table = [("a".toList, [.reference "b".toList, .literal "x".toList, .reference "b".toList]),
        ("b".toList, [.reference "c".toList, .literal "y".toList]),
        ("c".toList, [.literal "z".toList])] ∧
      expand table [.reference "a".toList] = .ok "zyxzy".toList ∧
      expand table [.reference "a".toList, .reference "d".toList] =
        .error (.undefined "d".toList) ∧
      table.get? "b".toList = some [.reference "c".toList, .literal "y".toList] ∧
      expand table ([.literal "<".toList] ++ .reference "b".toList :: [.literal ">".toList]) =
        .ok "<zy>".toList ∧
      table.names.Nodup ∧ table.faults = [] :=
    ⟨_, rfl, by cbv, by cbv, by decide, by cbv, by decide, by cbv⟩
  obtain ⟨hexpr, hsnippet, hcheck⟩ := expand_means table
  exact ⟨table, htable, hexpand, ((hexpr _).2.1 _).1 hexpand, hfailed, (hexpr _).2.2 _ hfailed,
    hget, hwhole, (hsnippet _ _ _ _ hget _).1 hwhole, hnodup, hfaults, (hcheck hnodup).1 hfaults⟩

end KeyMenu
