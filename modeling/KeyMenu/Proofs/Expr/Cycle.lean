import KeyMenu.Proofs.Expr.Expansion
import Mathlib.Data.List.Chain
import Mathlib.Data.List.Nodup

/-!
# Cycles that are told

A search through references keeps the names that it has entered on a path, each of which refers to
the next. Where a name of the path comes next again, the part of the path from that name on is a
cycle, in which no other name stands twice.

* `Snippets.SimpleCycle`; `Snippets.simpleCycle_closedCycle`: what a path is closed to;
* `Snippets.simpleCycle_of_walk`: the check of a table tells nothing but cycles;
* `Expr.Reaches`, `Expr.Blocked`; `Expr.blocked_of_expand`: what a failed expansion tells.
-/

namespace KeyMenu

open Relation

namespace Snippets

/-- The names of a cycle: each refers to the next, the last is the first one again, and no other is
repeated. -/
def SimpleCycle (table : Snippets) (names : List Text) : Prop :=
  ∃ first more, names = first :: more ++ [first] ∧ (first :: more).Nodup ∧
    names.IsChain table.Refers

variable {table : Snippets} {path : List Text} {name reference : Text} {e : Expr}

/-- The first name of a cycle leads back to itself. -/
theorem SimpleCycle.transGen_self {first : Text} {more : List Text}
    (h : table.SimpleCycle (first :: more)) : TransGen table.Refers first first := by
  obtain ⟨_, inner, heq, -, hchain⟩ := h
  obtain ⟨rfl, rfl⟩ := List.cons_eq_cons.1 heq
  cases inner with
  | nil => exact .single (List.isChain_cons_cons.1 hchain).1
  | cons second inner =>
      obtain ⟨hfirst, hchain⟩ := List.isChain_cons_cons.1 hchain
      refine .head' hfirst (List.relationReflTransGen_of_exists_isChain_cons _ hchain ?_)
      exact List.getLast_append_singleton (second :: inner)

/-! ### Paths -/

theorem nodup_concat (hnodup : path.Nodup) (hnew : name ∉ path) : (path ++ [name]).Nodup := by
  simpa using List.Nodup.concat hnew hnodup

/-- Behind a name comes what its snippet refers to. -/
theorem isChain_concat (hchain : (path ++ [name]).IsChain table.Refers)
    (h : table.Refers name reference) : (path ++ [name] ++ [reference]).IsChain table.Refers := by
  refine hchain.append (.singleton reference) fun last hlast next hnext => ?_
  rw [List.getLast?_concat] at hlast
  cases hlast
  cases hnext
  exact h

/-- What a path is closed to by a name on it. -/
theorem closedCycle_eq (hmem : name ∈ path) :
    ∃ before after, path = before ++ name :: after ∧
      closedCycle path name = name :: after ++ [name] := by
  obtain ⟨before, after, rfl, hbefore⟩ := List.eq_append_cons_of_mem hmem
  refine ⟨before, after, rfl, ?_⟩
  have hskip : ∀ entered ∈ before, decide (entered ≠ name) = true := fun entered hentered =>
    decide_eq_true fun heq => hbefore (heq ▸ hentered)
  rw [closedCycle, List.dropWhile_append_of_pos hskip, List.dropWhile_cons_of_neg (by simp)]

/-- A name that comes next on a path and is on it closes the path to a cycle. -/
theorem simpleCycle_closedCycle (hnodup : path.Nodup)
    (hchain : (path ++ [name]).IsChain table.Refers) (hmem : name ∈ path) :
    ∃ more, closedCycle path name = name :: more ∧ table.SimpleCycle (name :: more) := by
  obtain ⟨before, after, rfl, hclosed⟩ := closedCycle_eq hmem
  refine ⟨after ++ [name], hclosed, name, after, rfl, (List.nodup_append.1 hnodup).2.1, ?_⟩
  rw [List.append_assoc] at hchain
  exact hchain.right_of_append

/-- A walk from names that may come next on its path tells nothing but cycles. -/
theorem simpleCycle_of_walk {done names cycle : List Text} (hnodup : path.Nodup)
    (hnext : ∀ name ∈ names, (path ++ [name]).IsChain table.Refers)
    (h : walk table path done names = .error cycle) : table.SimpleCycle cycle := by
  induction path, done, names using walk.induct table generalizing cycle with
  | case1 path done =>
      rw [walk] at h
      cases h
  | case2 path done name more hmem =>
      rw [walk, if_pos hmem] at h
      cases h
      obtain ⟨inner, heq, hcycle⟩ :=
        simpleCycle_closedCycle hnodup (hnext name List.mem_cons_self) hmem
      exact heq ▸ hcycle
  | case3 path done name more hnew hmem ih =>
      rw [walk, if_neg hnew, if_pos hmem] at h
      exact ih hnodup (fun n hn => hnext n (List.mem_cons_of_mem _ hn)) h
  | case4 path done name more hnew hopen hget ih =>
      have hmore : walk table path done (name :: more) = walk table path done more := by
        rw [walk, if_neg hnew, if_neg hopen]
        split
        · rfl
        · next e hsome => cases hsome.symm.trans hget
      rw [hmore] at h
      exact ih hnodup (fun n hn => hnext n (List.mem_cons_of_mem _ hn)) h
  | case5 path done name more hnew hopen e hget inner hinner ih =>
      rw [walk_snippet hnew hopen hget, hinner] at h
      cases h
      refine ih (nodup_concat hnodup hnew) (fun r hr => ?_) hinner
      exact isChain_concat (hnext name List.mem_cons_self) ⟨e, hget, hr⟩
  | case6 path done name more hnew hopen e hget found hwalk ihbody ihmore =>
      rw [walk_snippet hnew hopen hget, hwalk] at h
      exact ihmore hnodup (fun n hn => hnext n (List.mem_cons_of_mem _ hn)) h

/-- From no path at all, a walk may begin at every name. -/
theorem simpleCycle_of_cycle? {cycle : List Text} (h : table.cycle? = some cycle) :
    table.SimpleCycle cycle := by
  rw [cycle?] at h
  cases hwalk : walk table [] [] table.names with
  | ok done =>
      rw [hwalk] at h
      cases h
  | error found =>
      rw [hwalk] at h
      cases h
      exact simpleCycle_of_walk List.nodup_nil (fun name _ => .singleton name) hwalk

end Snippets

/-! ### Failed expansions -/

namespace Expr

/-- Some reference of the expression leads to the name. -/
def Reaches (table : Snippets) (e : Expr) (name : Text) : Prop :=
  ∃ reference ∈ e.references, ReflTransGen table.Refers reference name

/-- What keeps an expression from being expanded: a name without a snippet, or a cycle, to which
its references lead. -/
inductive Blocked (table : Snippets) (e : Expr) : ExpansionError → Prop
  | undefined {name : Text} (hr : e.Reaches table name) (h : name ∉ table.names) :
      Blocked table e (.undefined name)
  | cycle {name : Text} {more : List Text} (hr : e.Reaches table name)
      (h : table.SimpleCycle (name :: more)) : Blocked table e (.cycle (name :: more))

variable {table : Snippets} {e body : Expr} {name : Text} {error : ExpansionError}

theorem Reaches.cons {part : Part} {rest : Expr} (h : Reaches table rest name) :
    Reaches table (part :: rest) name := by
  obtain ⟨reference, href, hleads⟩ := h
  exact ⟨reference, ((List.sublist_cons_self part rest).filterMap _).subset href, hleads⟩

theorem Blocked.mono (h : Blocked table body error)
    (hreaches : ∀ name, body.Reaches table name → e.Reaches table name) :
    Blocked table e error := by
  cases h with
  | undefined hr hname => exact .undefined (hreaches _ hr) hname
  | cycle hr hcycle => exact .cycle (hreaches _ hr) hcycle

/-- A reference leads to what its snippet leads to. -/
theorem Reaches.of_snippet (hget : table.get? name = some body) (hname : name ∈ e.references)
    {target : Text} (h : body.Reaches table target) : e.Reaches table target := by
  obtain ⟨reference, href, hleads⟩ := h
  exact ⟨name, hname, .head ⟨body, hget, href⟩ hleads⟩

/-- An expression whose references may come next on the path of names that are being expanded fails
only where it is blocked. -/
theorem blocked_of_expandFrom {path : List Text} (hnodup : path.Nodup)
    (hnext : ∀ name ∈ e.references, (path ++ [name]).IsChain table.Refers)
    (h : expandFrom table path e = .error error) : Blocked table e error := by
  induction path, e using expandFrom.induct table generalizing error with
  | case1 path =>
      rw [expandFrom] at h
      cases h
  | case2 path value rest ih =>
      cases hrest : expandFrom table path rest with
      | ok text =>
          rw [expandFrom, hrest] at h
          cases h
      | error inner =>
          rw [expandFrom, hrest] at h
          cases h
          exact (ih hnodup hnext hrest).mono fun _ hr => hr
  | case3 path element => cases element
  | case4 path name rest hget =>
      rw [expandFrom_reference_eq, hget] at h
      cases h
      exact .undefined ⟨name, List.mem_cons_self, .refl⟩ (Table.get?_eq_none_iff.1 hget)
  | case5 path name rest body hget hmem =>
      rw [expandFrom_reference_eq, hget] at h
      simp only [if_pos hmem] at h
      cases h
      obtain ⟨more, heq, hcycle⟩ :=
        Snippets.simpleCycle_closedCycle hnodup (hnext name List.mem_cons_self) hmem
      exact heq ▸ .cycle ⟨name, List.mem_cons_self, .refl⟩ hcycle
  | case6 path name rest body hget hnew inner hinner ih =>
      rw [expandFrom_reference_eq, hget] at h
      simp only [if_neg hnew, hinner] at h
      cases h
      have hblocked := ih (Snippets.nodup_concat hnodup hnew) (fun r hr =>
        Snippets.isChain_concat (hnext name List.mem_cons_self) ⟨body, hget, hr⟩) hinner
      exact hblocked.mono fun _ hr => hr.of_snippet hget List.mem_cons_self
  | case7 path name rest body hget hnew text htext ihbody ihrest =>
      rw [expandFrom_reference rest hget hnew htext] at h
      cases hrest : expandFrom table path rest with
      | ok more =>
          rw [hrest] at h
          cases h
      | error inner =>
          rw [hrest] at h
          cases h
          have hblocked :=
            ihrest hnodup (fun r hr => hnext r (List.mem_cons_of_mem _ hr)) hrest
          exact hblocked.mono fun _ hr => hr.cons

theorem blocked_of_expand (h : e.expand table = .error error) : e.Blocked table error :=
  blocked_of_expandFrom List.nodup_nil (fun name _ => .singleton name) h

end Expr

end KeyMenu
