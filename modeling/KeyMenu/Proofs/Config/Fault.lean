import KeyMenu.Config.OfTree
import KeyMenu.Proofs.Tree.Unplaced
import Mathlib.Tactic.Tauto

/-!
# Trees without faults

An empty list of faults, said without positions: nothing is given twice, every word of a `set`
clause is known, and the configuration of the tree is sound as a whole.

* `Tree.File.Distinct`: what holds of a tree, item by item, that has no faults of its own;
* `Config.faults_eq_nil_iff`: the list of faults is empty exactly then;
* `Config.ofTree_congr`: trees that agree up to positions have the same configuration.
-/

namespace KeyMenu

open Tree

/-! ### What is allowed -/

namespace Tree

/-- At most one clause of each kind, only known words, and each variable once. -/
structure CommandBlock.Distinct (b : CommandBlock) : Prop where
  settings : b.settings.length ≤ 1
  vars : b.vars.length ≤ 1
  shells : b.shells.length ≤ 1
  words : ∀ s ∈ b.settings.flatten, s.name = repeatWord ∨ s.name = ignoreResultWord
  names : (b.vars.flatten.map (·.name)).Nodup

/-- Each key once, and blocks as they should be. -/
structure Menu.Distinct (m : Menu) : Prop where
  keys : (m.entries.map (·.key)).Nodup
  blocks : ∀ e ∈ m.entries, ∀ b, e.value = .block b → b.Distinct

/-- At most one setting of each kind, each name once, and menus as they should be. -/
structure File.Distinct (f : File) : Prop where
  shells : f.shells.length ≤ 1
  echoes : f.echoes.length ≤ 1
  snippets : (f.snippets.map (·.name)).Nodup
  menuNames : (f.menus.map (·.name)).Nodup
  menus : ∀ m ∈ f.menus, m.Distinct

end Tree

/-! ### Empty lists of faults -/

theorem settingFaults_eq_nil_iff {shellGiven echoGiven : Bool} {settings : List Tree.Setting} :
    settingFaults shellGiven echoGiven settings = [] ↔
      (File.shells ⟨settings, []⟩).length + shellGiven.toNat ≤ 1 ∧
        (File.echoes ⟨settings, []⟩).length + echoGiven.toNat ≤ 1 := by
  induction settings generalizing shellGiven echoGiven with
  | nil =>
      simp only [settingFaults, File.shells, File.echoes, List.filterMap_nil, List.length_nil,
        true_iff, Nat.zero_add]
      exact ⟨Bool.toNat_le _, Bool.toNat_le _⟩
  | cons s rest ih =>
      cases s with
      | shell line =>
          simp only [settingFaults, List.append_eq_nil_iff, ih, File.shells, File.echoes,
            List.filterMap_cons, List.length_cons]
          cases shellGiven <;> simp
      | echo on pos =>
          simp only [settingFaults, List.append_eq_nil_iff, ih, File.shells, File.echoes,
            List.filterMap_cons, List.length_cons]
          cases echoGiven <;> simp

/-- The names of the items differ from one another and from those seen so far. -/
def AllNew {α : Type} (name : α → Text) (seen : List Text) (items : List α) : Prop :=
  (items.map name).Nodup ∧ ∀ x ∈ items, name x ∉ seen

theorem allNew_nil {α : Type} (name : α → Text) (seen : List Text) : AllNew name seen [] :=
  ⟨List.nodup_nil, fun _ hx => nomatch hx⟩

theorem allNew_cons {α : Type} {name : α → Text} {seen : List Text} {x : α} {rest : List α} :
    AllNew name seen (x :: rest) ↔ name x ∉ seen ∧ AllNew name (name x :: seen) rest := by
  simp only [AllNew, List.map_cons, List.nodup_cons, List.mem_map, List.mem_cons, not_or,
    forall_eq_or_imp, not_exists, not_and]
  constructor
  · rintro ⟨⟨hne, hnodup⟩, hx, hseen⟩
    exact ⟨hx, hnodup, fun y hy => ⟨hne y hy, hseen y hy⟩⟩
  · rintro ⟨hx, hnodup, hseen⟩
    exact ⟨⟨fun y hy => (hseen y hy).1, hnodup⟩, hx, fun y hy => (hseen y hy).2⟩

theorem allNew_empty {α : Type} {name : α → Text} {items : List α} :
    AllNew name [] items ↔ (items.map name).Nodup :=
  ⟨And.left, fun h => ⟨h, fun _ _ => List.not_mem_nil⟩⟩

theorem variableFaults_eq_nil_iff {seen : List Text} {vars : List Tree.Variable} :
    variableFaults seen vars = [] ↔ AllNew (·.name) seen vars := by
  induction vars generalizing seen with
  | nil => simp [variableFaults, allNew_nil]
  | cons v rest ih =>
      rw [variableFaults, allNew_cons]
      by_cases hv : v.name ∈ seen
      · simp [hv]
      · simp [hv, ih]

theorem blockFaults_eq_nil_iff {menu key : Text} {b : Tree.CommandBlock} :
    blockFaults menu key b = [] ↔ b.Distinct := by
  have hagain (clause : ClauseKind) (count : Nat) :
      (if 1 < count then [Fault.clauseAgain b.pos menu key clause] else []) = [] ↔ count ≤ 1 := by
    rw [ite_eq_right_iff]
    simp
  have hwords : (b.settings.flatten.filter fun s => s.name ≠ repeatWord ∧ s.name ≠ ignoreResultWord)
      = [] ↔ ∀ s ∈ b.settings.flatten, s.name = repeatWord ∨ s.name = ignoreResultWord := by
    rw [List.filter_eq_nil_iff]
    refine forall₂_congr fun s _ => ?_
    rw [decide_eq_true_eq]
    tauto
  simp only [blockFaults, List.append_eq_nil_iff, List.map_eq_nil_iff, hagain, hwords,
    variableFaults_eq_nil_iff, allNew_empty]
  constructor
  · rintro ⟨⟨⟨⟨hset, hvars⟩, hshell⟩, hwords⟩, hnames⟩
    exact ⟨hset, hvars, hshell, hwords, hnames⟩
  · exact fun h => ⟨⟨⟨⟨h.settings, h.vars⟩, h.shells⟩, h.words⟩, h.names⟩

theorem entryFaults_eq_nil_iff {menu : Text} {seen : List Text} {entries : List Tree.Entry} :
    entryFaults menu seen entries = [] ↔
      AllNew (·.key) seen entries ∧ ∀ e ∈ entries, ∀ b, e.value = .block b → b.Distinct := by
  induction entries generalizing seen with
  | nil => simp [entryFaults, allNew_nil]
  | cons e rest ih =>
      obtain ⟨key, value, pos⟩ := e
      rw [entryFaults, allNew_cons, List.forall_mem_cons]
      by_cases he : key ∈ seen
      · simp [he]
      · rw [if_neg he, List.append_eq_nil_iff, ih]
        cases value with
        | block b =>
            simp only [blockFaults_eq_nil_iff, EntryValue.block.injEq, forall_eq']
            tauto
        | menu _ | quick _ =>
            simp only [reduceCtorEq, false_implies, implies_true, true_and]
            tauto

theorem Tree.Menu.distinct_iff {m : Menu} : m.Distinct ↔
    AllNew (·.key) [] m.entries ∧ ∀ e ∈ m.entries, ∀ b, e.value = .block b → b.Distinct :=
  ⟨fun h => ⟨allNew_empty.2 h.keys, h.blocks⟩, fun h => ⟨allNew_empty.1 h.1, h.2⟩⟩

theorem itemFaults_eq_nil_iff {snippets menus : List Text} {items : List Item} :
    itemFaults snippets menus items = [] ↔
      AllNew (·.name) snippets (File.snippets ⟨[], items⟩) ∧
        AllNew (·.name) menus (File.menus ⟨[], items⟩) ∧
          ∀ m ∈ File.menus ⟨[], items⟩, m.Distinct := by
  induction items generalizing snippets menus with
  | nil => simp [itemFaults, File.snippets, File.menus, allNew_nil]
  | cons i rest ih =>
      cases i with
      | snippet s =>
          have hs : File.snippets ⟨[], .snippet s :: rest⟩ = s :: File.snippets ⟨[], rest⟩ := rfl
          have hm : File.menus ⟨[], .snippet s :: rest⟩ = File.menus ⟨[], rest⟩ := rfl
          rw [itemFaults, hs, hm, allNew_cons]
          by_cases hseen : s.name ∈ snippets
          · simp [hseen]
          · simp [hseen, ih]
      | menu m =>
          have hs : File.snippets ⟨[], .menu m :: rest⟩ = File.snippets ⟨[], rest⟩ := rfl
          have hm : File.menus ⟨[], .menu m :: rest⟩ = m :: File.menus ⟨[], rest⟩ := rfl
          rw [itemFaults, hs, hm, allNew_cons, List.forall_mem_cons]
          by_cases hseen : m.name ∈ menus
          · simp [hseen]
          · rw [if_neg hseen, List.append_eq_nil_iff, ih, entryFaults_eq_nil_iff,
              ← Menu.distinct_iff]
            tauto

/-- A tree has no faults if it gives nothing twice and the configuration that it describes is sound
as a whole. -/
theorem Config.faults_eq_nil_iff {f : Tree.File} :
    faults f = [] ↔ f.Distinct ∧ graphFaults (assemble f) = [] := by
  rw [faults, List.append_eq_nil_iff, List.append_eq_nil_iff, settingFaults_eq_nil_iff,
    itemFaults_eq_nil_iff]
  refine and_congr_left fun _ => ⟨?_, fun h => ?_⟩
  · rintro ⟨⟨hshell, hecho⟩, hsnippets, hmenus, hdistinct⟩
    exact ⟨hshell, hecho, allNew_empty.1 hsnippets, allNew_empty.1 hmenus, hdistinct⟩
  · exact ⟨⟨h.shells, h.echoes⟩, allNew_empty.2 h.snippets, allNew_empty.2 h.menuNames, h.menus⟩

/-! ### Positions -/

theorem keepFirst_map {α β : Type} {f : α → β} {name : α → Text} {name' : β → Text}
    (h : ∀ x, name' (f x) = name x) (items : List α) :
    keepFirst name' (items.map f) = (keepFirst name items).map f := by
  induction items with
  | nil => rfl
  | cons x rest ih =>
      have hcomp : (fun y => decide (name' y ≠ name' (f x))) ∘ f =
          fun y => decide (name y ≠ name x) := funext fun y => by simp [h]
      rw [List.map_cons, keepFirst, keepFirst, ih, List.map_cons, List.filter_map, hcomp]

namespace Tree

/-- Choosing and changing the items of a list, in either order. -/
theorem filterMap_map_comm {α β γ δ : Type} {u : α → β} {v : γ → δ} {f : β → Option δ}
    {g : α → Option γ} (h : ∀ x, f (u x) = (g x).map v) (l : List α) :
    (l.map u).filterMap f = (l.filterMap g).map v := by
  rw [List.filterMap_map, List.map_filterMap]
  exact congrArg (List.filterMap · l) (funext h)

theorem CommandBlock.settings_unplaced (b : CommandBlock) :
    b.unplaced.settings = b.settings.map (·.map Symbol.unplaced) :=
  filterMap_map_comm (fun cl => by cases cl <;> rfl) b.clauses

theorem CommandBlock.vars_unplaced (b : CommandBlock) :
    b.unplaced.vars = b.vars.map (·.map Variable.unplaced) :=
  filterMap_map_comm (fun cl => by cases cl <;> rfl) b.clauses

theorem CommandBlock.shells_unplaced (b : CommandBlock) :
    b.unplaced.shells = b.shells.map ShellLine.unplaced :=
  filterMap_map_comm (fun cl => by cases cl <;> rfl) b.clauses

theorem File.snippets_unplaced (f : File) :
    f.unplaced.snippets = f.snippets.map Snippet.unplaced :=
  filterMap_map_comm (fun i => by cases i <;> rfl) f.items

theorem File.menus_unplaced (f : File) : f.unplaced.menus = f.menus.map Menu.unplaced :=
  filterMap_map_comm (fun i => by cases i <;> rfl) f.items

theorem File.shells_unplaced (f : File) : f.unplaced.shells = f.shells :=
  (filterMap_map_comm (v := id) (fun s => by cases s <;> rfl) f.settings).trans
    (List.map_id _)

theorem File.echoes_unplaced (f : File) : f.unplaced.echoes = f.echoes :=
  (filterMap_map_comm (v := id) (fun s => by cases s <;> rfl) f.settings).trans
    (List.map_id _)

theorem CommandBlock.distinct_unplaced {b : CommandBlock} : b.unplaced.Distinct ↔ b.Distinct := by
  have hwords : (∀ s ∈ b.unplaced.settings.flatten, s.name = repeatWord ∨ s.name = ignoreResultWord)
      ↔ ∀ s ∈ b.settings.flatten, s.name = repeatWord ∨ s.name = ignoreResultWord := by
    rw [settings_unplaced, ← List.map_flatten, List.forall_mem_map]
    rfl
  have hnames : b.unplaced.vars.flatten.map (·.name) = b.vars.flatten.map (·.name) := by
    rw [vars_unplaced, ← List.map_flatten, List.map_map]
    rfl
  have hset : b.unplaced.settings.length = b.settings.length := by
    rw [settings_unplaced, List.length_map]
  have hvars : b.unplaced.vars.length = b.vars.length := by rw [vars_unplaced, List.length_map]
  have hshells : b.unplaced.shells.length = b.shells.length := by
    rw [shells_unplaced, List.length_map]
  constructor
  · exact fun h => ⟨hset ▸ h.settings, hvars ▸ h.vars, hshells ▸ h.shells, hwords.1 h.words,
      hnames ▸ h.names⟩
  · exact fun h => ⟨hset ▸ h.settings, hvars ▸ h.vars, hshells ▸ h.shells, hwords.2 h.words,
      hnames ▸ h.names⟩

theorem Menu.distinct_unplaced {m : Menu} : m.unplaced.Distinct ↔ m.Distinct := by
  have hkeys : m.unplaced.entries.map (·.key) = m.entries.map (·.key) := by
    rw [unplaced, List.map_map]
    rfl
  have hblocks : (∀ e ∈ m.unplaced.entries, ∀ b, e.value = .block b → b.Distinct) ↔
      ∀ e ∈ m.entries, ∀ b, e.value = .block b → b.Distinct := by
    rw [unplaced, List.forall_mem_map]
    refine forall₂_congr fun e _ => ?_
    obtain ⟨key, value, pos⟩ := e
    cases value with
    | block b =>
        simp only [Entry.unplaced, EntryValue.unplaced, EntryValue.block.injEq, forall_eq',
          CommandBlock.distinct_unplaced]
    | menu _ | quick _ => simp [Entry.unplaced, EntryValue.unplaced]
  exact ⟨fun h => ⟨hkeys ▸ h.keys, hblocks.1 h.blocks⟩,
    fun h => ⟨hkeys ▸ h.keys, hblocks.2 h.blocks⟩⟩

theorem File.distinct_unplaced {f : File} : f.unplaced.Distinct ↔ f.Distinct := by
  have hsnippets : f.unplaced.snippets.map (·.name) = f.snippets.map (·.name) := by
    rw [snippets_unplaced, List.map_map]
    rfl
  have hnames : f.unplaced.menus.map (·.name) = f.menus.map (·.name) := by
    rw [menus_unplaced, List.map_map]
    rfl
  have hmenus : (∀ m ∈ f.unplaced.menus, m.Distinct) ↔ ∀ m ∈ f.menus, m.Distinct := by
    rw [menus_unplaced, List.forall_mem_map]
    exact forall₂_congr fun m _ => Menu.distinct_unplaced
  constructor
  · exact fun h => ⟨f.shells_unplaced ▸ h.shells, f.echoes_unplaced ▸ h.echoes,
      hsnippets ▸ h.snippets, hnames ▸ h.menuNames, hmenus.1 h.menus⟩
  · exact fun h => ⟨f.shells_unplaced.symm ▸ h.shells, f.echoes_unplaced.symm ▸ h.echoes,
      hsnippets ▸ h.snippets, hnames ▸ h.menuNames, hmenus.2 h.menus⟩

end Tree

theorem Expr.ofTree_unplaced (e : Tree.Expression) : ofTree e.unplaced = ofTree e := by
  have hpiece (p : Tree.Piece) : Part.ofTree p.unplaced = Part.ofTree p := by cases p <;> rfl
  rw [ofTree, ofTree, Expression.pieces, Expression.pieces, Expression.unplaced, List.map_cons,
    List.map_cons, hpiece, List.map_map]
  exact congrArg _ (List.map_congr_left fun p _ => hpiece p)

theorem Options.ofTree_unplaced (b : Tree.CommandBlock) : ofTree b.unplaced = ofTree b := by
  have hwords : b.unplaced.settings.flatten.map (·.name) = b.settings.flatten.map (·.name) := by
    rw [b.settings_unplaced, ← List.map_flatten, List.map_map]
    rfl
  have hvars : (keepFirst (·.name) b.unplaced.vars.flatten).map (fun v => (⟨v.name, v.default⟩ :
      Variable)) = (keepFirst (·.name) b.vars.flatten).map fun v => ⟨v.name, v.default⟩ := by
    rw [b.vars_unplaced, ← List.map_flatten, keepFirst_map (fun _ => rfl), List.map_map]
    rfl
  have hshell : b.unplaced.shells.getLast?.map (·.shell) = b.shells.getLast?.map (·.shell) := by
    rw [b.shells_unplaced, List.getLast?_map, Option.map_map]
    rfl
  rw [ofTree, ofTree, hwords, hvars, hshell]

theorem Entry.ofTree_unplaced (v : Tree.EntryValue) : ofTree v.unplaced = ofTree v := by
  cases v with
  | menu s => rfl
  | quick q => rw [EntryValue.unplaced, ofTree, ofTree, Command.ofTree, Command.ofTree,
      QuickCommand.unplaced, Expr.ofTree_unplaced]
  | block b =>
      rw [EntryValue.unplaced, ofTree, ofTree, Options.ofTree_unplaced, Command.ofTree,
        Command.ofTree]
      simp only [CommandBlock.unplaced, QuickCommand.unplaced, Expr.ofTree_unplaced]

theorem Menu.ofTree_unplaced (m : Tree.Menu) : ofTree m.unplaced = ofTree m := by
  rw [ofTree, ofTree, Tree.Menu.unplaced, keepFirst_map (fun _ => rfl), List.map_map]
  refine congrArg _ (List.map_congr_left fun e _ => ?_)
  exact congrArg _ (Entry.ofTree_unplaced e.value)

/-- Positions leave no trace in a configuration. -/
theorem Config.assemble_unplaced (f : Tree.File) : assemble f.unplaced = assemble f := by
  have hsettings : Settings.ofTree f.unplaced = Settings.ofTree f := by
    rw [Settings.ofTree, Settings.ofTree, f.shells_unplaced, f.echoes_unplaced]
  rw [assemble, assemble, hsettings, f.snippets_unplaced, f.menus_unplaced,
    keepFirst_map (fun _ => rfl), keepFirst_map (fun _ => rfl), List.map_map, List.map_map]
  refine congrArg₂ _ (List.map_congr_left fun s _ => ?_) (List.map_congr_left fun m _ => ?_)
  · exact congrArg _ (Expr.ofTree_unplaced s.expr)
  · exact Menu.ofTree_unplaced m

/-- Trees that agree up to positions have the same configuration, or neither has one. -/
theorem Config.ofTree_congr {f g : Tree.File} (h : f.unplaced = g.unplaced) {c : Config}
    (hg : ofTree g = .ok c) : ofTree f = .ok c := by
  have hassemble : assemble f = assemble g := by
    rw [← assemble_unplaced, h, assemble_unplaced]
  have hdistinct : f.Distinct ↔ g.Distinct := by
    rw [← File.distinct_unplaced, h, File.distinct_unplaced]
  have hfaults : faults f = [] ↔ faults g = [] := by
    rw [faults_eq_nil_iff, faults_eq_nil_iff, hassemble, hdistinct]
  unfold ofTree at hg ⊢
  cases hfg : faults g with
  | nil =>
      rw [hfg] at hg
      rw [hfaults.2 hfg, hassemble]
      exact hg
  | cons fault rest =>
      rw [hfg] at hg
      cases hg

end KeyMenu
