import KeyMenu.Proofs.Config.Graph
import KeyMenu.Proofs.Expr.Acyclic

/-!
# Which trees have a configuration, and which one

The rules for configurations, said of the tree and of nothing else (`Tree.File.Sound`), and what it
means that a configuration says the same as a tree, item by item (`Config.Translates`). A tree has
a configuration exactly if it keeps the rules, and the configuration is the one that says the same.

* `Tree.File.Sound`, on top of `Tree.File.Distinct`;
* `Config.Translates`, with one relation for each construct, and `Config.Translates.unique`;
* `Config.faults_eq_nil_iff_sound`: a tree without faults keeps the rules;
* `Config.ofTree_eq_ok_iff_translates`: the main theorem.
-/

namespace KeyMenu

open Relation

/-! ### The rules -/

namespace Tree

/-- One of the pieces is a reference to the snippet. -/
def Expression.Mentions (e : Expression) (name : Text) : Prop :=
  ∃ pos, Piece.reference name pos ∈ e.pieces

/-- The expression that an entry runs, if it leads to a command. -/
def EntryValue.expr? : EntryValue → Option Expression
  | .menu _ => none
  | .quick q => some q.expr
  | .block b => some b.command.expr

/-- A snippet of the one name mentions the other. -/
def File.Refers (f : File) (name reference : Text) : Prop :=
  ∃ s ∈ f.snippets, s.name = name ∧ s.expr.Mentions reference

/-- The rules for a configuration as a whole: nothing is given twice, every name that is used is
declared, every key can be typed, and no snippet leads back to itself. -/
structure File.Sound (f : File) : Prop extends f.Distinct where
  root : ∃ m ∈ f.menus, m.name = rootName
  prefixFree : ∀ m ∈ f.menus, ∀ e ∈ m.entries, ∀ e' ∈ m.entries, e.key <+: e'.key → e.key = e'.key
  submenus : ∀ m ∈ f.menus, ∀ e ∈ m.entries, ∀ s, e.value = .menu s →
    ∃ target ∈ f.menus, target.name = s.name
  entryReferences : ∀ m ∈ f.menus, ∀ e ∈ m.entries, ∀ x, e.value.expr? = some x →
    ∀ name, x.Mentions name → ∃ s ∈ f.snippets, s.name = name
  snippetReferences : ∀ s ∈ f.snippets, ∀ name, s.expr.Mentions name →
    ∃ t ∈ f.snippets, t.name = name
  acyclic : ∀ name, ¬ TransGen f.Refers name name

end Tree

/-! ### Item by item -/

/-- A part that says the same as a piece. -/
inductive Part.Translates : Tree.Piece → Part → Prop
  | literal (value : Text) (pos : Position) : Translates (.literal value pos) (.literal value)
  | reference (name : Text) (pos : Position) : Translates (.reference name pos) (.reference name)

/-- An expression of the same pieces. -/
def Expr.Translates (e : Tree.Expression) (x : Expr) : Prop :=
  List.Forall₂ Part.Translates e.pieces x

/-- A variable of the same name and default. -/
def Variable.Translates (v : Tree.Variable) (w : Variable) : Prop :=
  w.name = v.name ∧ w.default = v.default

/-- Options that say the same as the clauses of a block. -/
structure Options.Translates (b : Tree.CommandBlock) (o : Options) : Prop where
  repeats : o.repeats = true ↔ ∃ s ∈ b.settings.flatten, s.name = repeatWord
  ignoresResult : o.ignoresResult = true ↔ ∃ s ∈ b.settings.flatten, s.name = ignoreResultWord
  vars : List.Forall₂ Variable.Translates b.vars.flatten o.vars
  shell : o.shell.toList = b.shells.map (·.shell)

/-- A command that runs the same expression under the same name. -/
structure Command.Translates (q : Tree.QuickCommand) (c : Command) : Prop where
  expr : Expr.Translates q.expr c.expr
  name : c.name = q.name
  togglesEcho : c.togglesEcho = q.togglesEcho

/-- What a key leads to, of the same kind. -/
inductive Entry.Translates : Tree.EntryValue → Entry → Prop
  | submenu (s : Tree.Symbol) : Translates (.menu s) (.submenu s.name)
  | quick {q : Tree.QuickCommand} {c : Command} (hcommand : Command.Translates q c)
      (hoptions : c.options = none) : Translates (.quick q) (.command c)
  | block {b : Tree.CommandBlock} {c : Command} {o : Options}
      (hcommand : Command.Translates b.command c) (hoptions : c.options = some o)
      (hblock : Options.Translates b o) : Translates (.block b) (.command c)

/-- A menu with the same name, title and entries. -/
structure Menu.Translates (m : Tree.Menu) (m' : Menu) : Prop where
  name : m'.name = m.name
  title : m'.title = m.title
  entries : List.Forall₂ (fun e p => p.1 = e.key ∧ Entry.Translates e.value p.2)
    m.entries m'.entries

/-- A configuration that says the same as a tree, with nothing lost, merged or reordered. -/
structure Config.Translates (f : Tree.File) (c : Config) : Prop where
  shell : c.settings.shell.toList = f.shells
  echo : (f.echoes = [] ∧ c.settings.echo = true) ∨ f.echoes = [c.settings.echo]
  snippets : List.Forall₂ (fun s p => p.1 = s.name ∧ Expr.Translates s.expr p.2)
    f.snippets c.snippets
  menus : List.Forall₂ Menu.Translates f.menus c.menus

/-! ### At most one translation -/

theorem Part.rightUnique_translates : Relator.RightUnique Part.Translates := by
  intro piece x y hx hy
  cases hx <;> cases hy <;> rfl

theorem Variable.rightUnique_translates : Relator.RightUnique Variable.Translates := by
  intro v x y hx hy
  cases x
  cases y
  exact Variable.mk.injEq .. |>.mpr ⟨hx.1.trans hy.1.symm, hx.2.trans hy.2.symm⟩

theorem Expr.rightUnique_translates : Relator.RightUnique Expr.Translates :=
  fun _ _ _ hx hy => Part.rightUnique_translates.forall₂ hx hy

/-- A value that is there or not, told from the list of it. -/
theorem option_eq_of_toList_eq {α : Type} {x y : Option α} (h : x.toList = y.toList) : x = y := by
  cases x with
  | none => cases y <;> simp_all
  | some a => cases y <;> simp_all

theorem Options.rightUnique_translates : Relator.RightUnique Options.Translates := by
  intro b x y hx hy
  have hrepeats : x.repeats = y.repeats := Bool.eq_iff_iff.2 (hx.repeats.trans hy.repeats.symm)
  have hignores : x.ignoresResult = y.ignoresResult :=
    Bool.eq_iff_iff.2 (hx.ignoresResult.trans hy.ignoresResult.symm)
  have hvars : x.vars = y.vars := Variable.rightUnique_translates.forall₂ hx.vars hy.vars
  have hshell : x.shell = y.shell := option_eq_of_toList_eq (hx.shell.trans hy.shell.symm)
  cases x
  cases y
  exact Options.mk.injEq .. |>.mpr ⟨hrepeats, hignores, hvars, hshell⟩

/-- Commands that translate the same one differ at most in their options. -/
theorem Command.Translates.unique {q : Tree.QuickCommand} {x y : Command}
    (hx : Translates q x) (hy : Translates q y) (hoptions : x.options = y.options) : x = y := by
  have hexpr : x.expr = y.expr := Expr.rightUnique_translates hx.expr hy.expr
  have hname : x.name = y.name := hx.name.trans hy.name.symm
  have hechoes : x.togglesEcho = y.togglesEcho := hx.togglesEcho.trans hy.togglesEcho.symm
  cases x
  cases y
  exact Command.mk.injEq .. |>.mpr ⟨hexpr, hname, hechoes, hoptions⟩

theorem Entry.rightUnique_translates : Relator.RightUnique Entry.Translates := by
  intro v x y hx hy
  cases hx with
  | submenu s =>
      cases hy
      rfl
  | quick hcommand hnone =>
      cases hy with
      | quick hcommand' hnone' =>
          exact congrArg _ (hcommand.unique hcommand' (hnone.trans hnone'.symm))
  | block hcommand hsome hblock =>
      cases hy with
      | block hcommand' hsome' hblock' =>
          cases Options.rightUnique_translates hblock hblock'
          exact congrArg _ (hcommand.unique hcommand' (hsome.trans hsome'.symm))

theorem Menu.rightUnique_translates : Relator.RightUnique Menu.Translates := by
  intro m x y hx hy
  have hentry : Relator.RightUnique fun (e : Tree.Entry) (p : Text × Entry) =>
      p.1 = e.key ∧ Entry.Translates e.value p.2 := fun _ _ _ hp hp' =>
    Prod.ext (hp.1.trans hp'.1.symm) (Entry.rightUnique_translates hp.2 hp'.2)
  have hname : x.name = y.name := hx.name.trans hy.name.symm
  have htitle : x.title = y.title := hx.title.trans hy.title.symm
  have hentries : x.entries = y.entries := hentry.forall₂ hx.entries hy.entries
  cases x
  cases y
  exact Menu.mk.injEq .. |>.mpr ⟨hname, htitle, hentries⟩

/-- No two configurations say the same as a tree. -/
theorem Config.Translates.unique {f : Tree.File} {x y : Config} (hx : Translates f x)
    (hy : Translates f y) : x = y := by
  have hsnippet : Relator.RightUnique fun (s : Tree.Snippet) (p : Text × Expr) =>
      p.1 = s.name ∧ Expr.Translates s.expr p.2 := fun _ _ _ hp hp' =>
    Prod.ext (hp.1.trans hp'.1.symm) (Expr.rightUnique_translates hp.2 hp'.2)
  have hshell : x.settings.shell = y.settings.shell :=
    option_eq_of_toList_eq (hx.shell.trans hy.shell.symm)
  have hecho : x.settings.echo = y.settings.echo := by
    rcases hx.echo with ⟨hnil, hon⟩ | hone <;> rcases hy.echo with ⟨hnil', hon'⟩ | hone'
    · exact hon.trans hon'.symm
    · cases hnil.symm.trans hone'
    · cases hone.symm.trans hnil'
    · exact List.singleton_inj.1 (hone.symm.trans hone')
  have hsnippets : x.snippets = y.snippets := hsnippet.forall₂ hx.snippets hy.snippets
  have hmenus : x.menus = y.menus := Menu.rightUnique_translates.forall₂ hx.menus hy.menus
  obtain ⟨⟨_, _⟩, _, _⟩ := x
  obtain ⟨⟨_, _⟩, _, _⟩ := y
  exact Config.mk.injEq .. |>.mpr
    ⟨Settings.mk.injEq .. |>.mpr ⟨hshell, hecho⟩, hsnippets, hmenus⟩

/-! ### The translation -/

theorem Expr.translates_ofTree (e : Tree.Expression) : Translates e (ofTree e) := by
  rw [Translates, ofTree, List.forall₂_map_right_iff, List.forall₂_same]
  intro piece _
  cases piece with
  | literal value pos => exact .literal value pos
  | reference name pos => exact .reference name pos

theorem mem_references_ofTree {e : Tree.Expression} {name : Text} :
    name ∈ (Expr.ofTree e).references ↔ e.Mentions name := by
  rw [Expr.references, Expr.ofTree, List.mem_filterMap]
  constructor
  · rintro ⟨part, hpart, href⟩
    obtain ⟨piece, hpiece, rfl⟩ := List.mem_map.1 hpart
    cases piece with
    | literal value pos => cases href
    | reference name' pos =>
        cases href
        exact ⟨pos, hpiece⟩
  · rintro ⟨pos, hpiece⟩
    exact ⟨.reference name, List.mem_map_of_mem hpiece, rfl⟩

/-- Of a list of at most one member, nothing but the last is to be kept. -/
theorem toList_getLast?_eq_self {α : Type} {l : List α} (h : l.length ≤ 1) :
    l.getLast?.toList = l := by
  match l, h with
  | [], _ => rfl
  | [x], _ => rfl

theorem Options.translates_ofTree {b : Tree.CommandBlock} (h : b.Distinct) :
    Translates b (ofTree b) := by
  have hwords (word : Text) : (b.settings.flatten.map (·.name)).contains word = true ↔
      ∃ s ∈ b.settings.flatten, s.name = word := by
    rw [List.contains_iff_mem, List.mem_map]
  refine ⟨hwords repeatWord, hwords ignoreResultWord, ?_, ?_⟩
  · rw [ofTree, keepFirst_eq_self h.names, List.forall₂_map_right_iff, List.forall₂_same]
    exact fun v _ => ⟨rfl, rfl⟩
  · rw [ofTree, ← List.getLast?_map]
    exact toList_getLast?_eq_self ((List.length_map _).trans_le h.shells)

theorem Entry.translates_ofTree {v : Tree.EntryValue} (h : ∀ b, v = .block b → b.Distinct) :
    Translates v (ofTree v) := by
  cases v with
  | menu s => exact .submenu s
  | quick q => exact .quick ⟨Expr.translates_ofTree q.expr, rfl, rfl⟩ rfl
  | block b =>
      exact .block ⟨Expr.translates_ofTree b.command.expr, rfl, rfl⟩ rfl
        (Options.translates_ofTree (h b rfl))

theorem Menu.translates_ofTree {m : Tree.Menu} (h : m.Distinct) : Translates m (ofTree m) := by
  refine ⟨rfl, rfl, ?_⟩
  rw [Menu.entries_ofTree h, List.forall₂_map_right_iff, List.forall₂_same]
  exact fun e he => ⟨rfl, Entry.translates_ofTree (h.blocks e he)⟩

namespace Config

/-- A tree that gives nothing twice is translated item by item. -/
theorem translates_assemble {f : Tree.File} (h : f.Distinct) : Translates f (assemble f) := by
  obtain ⟨hsnippets, hmenus⟩ := assemble_of_distinct h
  refine ⟨toList_getLast?_eq_self h.shells, ?_, ?_, ?_⟩
  · have hecho : (assemble f).settings.echo = f.echoes.getLast?.getD true := rfl
    rw [hecho]
    match f.echoes, h.echoes with
    | [], _ => exact .inl ⟨rfl, rfl⟩
    | [on], _ => exact .inr rfl
  · rw [hsnippets, List.forall₂_map_right_iff, List.forall₂_same]
    exact fun s _ => ⟨rfl, Expr.translates_ofTree s.expr⟩
  · rw [hmenus, List.forall₂_map_right_iff, List.forall₂_same]
    exact fun m hm => Menu.translates_ofTree (h.menus m hm)

/-! ### The rules and the faults -/

/-- A menu of the name exists exactly if one of the menus has it. -/
theorem exists_menu?_iff {c : Config} {name : Text} :
    (∃ m, c.menu? name = some m) ↔ ∃ m ∈ c.menus, m.name = name := by
  rw [← Option.isSome_iff_exists, menu?, List.find?_isSome]
  simp

/-- Where all names differ, every menu is found under its own. -/
theorem menu?_name {c : Config} (h : (c.menus.map (·.name)).Nodup) {m : Menu}
    (hm : m ∈ c.menus) : c.menu? m.name = some m := by
  obtain ⟨found, hfound⟩ := exists_menu?_iff.2 ⟨m, hm, rfl⟩
  have hsame : found.name = m.name := name_of_menu? hfound
  rw [hfound, List.inj_on_of_nodup_map h (mem_of_menu? hfound) hm hsame]

variable {f : Tree.File}

theorem exists_menu?_assemble_iff (h : f.Distinct) {name : Text} :
    (∃ m, (assemble f).menu? name = some m) ↔ ∃ m ∈ f.menus, m.name = name := by
  rw [exists_menu?_iff, (assemble_of_distinct h).2]
  simp only [List.mem_map, exists_exists_and_eq_and]
  rfl

theorem names_snippets_assemble (h : f.Distinct) :
    (assemble f).snippets.names = f.snippets.map (·.name) := by
  rw [(assemble_of_distinct h).1, Table.names, List.map_map]
  rfl

theorem mem_names_snippets_assemble (h : f.Distinct) {name : Text} :
    name ∈ (assemble f).snippets.names ↔ ∃ s ∈ f.snippets, s.name = name := by
  rw [names_snippets_assemble h, List.mem_map]

/-- Snippets refer to one another as the tree says. -/
theorem refers_assemble_iff (h : f.Distinct) {name reference : Text} :
    (assemble f).snippets.Refers name reference ↔ f.Refers name reference := by
  have hnodup : (assemble f).snippets.names.Nodup := by
    rw [names_snippets_assemble h]
    exact h.snippets
  have hget (e : Expr) : (assemble f).snippets.get? name = some e ↔
      ∃ s ∈ f.snippets, s.name = name ∧ Expr.ofTree s.expr = e := by
    rw [Table.get?_eq_some_iff hnodup, (assemble_of_distinct h).1, List.mem_map]
    simp only [Prod.mk.injEq]
  constructor
  · rintro ⟨e, he, href⟩
    obtain ⟨s, hs, hname, rfl⟩ := (hget e).1 he
    exact ⟨s, hs, hname, mem_references_ofTree.1 href⟩
  · rintro ⟨s, hs, hname, hmentions⟩
    exact ⟨Expr.ofTree s.expr, (hget _).2 ⟨s, hs, hname, rfl⟩, mem_references_ofTree.2 hmentions⟩

theorem keys_ofTree {m : Tree.Menu} (h : m.Distinct) :
    (Menu.ofTree m).keys = m.entries.map (·.key) := by
  rw [Menu.keys, Menu.entries_ofTree h, Table.names, List.map_map]
  rfl

theorem conflicts_assemble_iff (h : f.Distinct) :
    (∀ m ∈ (assemble f).menus, keyConflicts m.keys = []) ↔
      ∀ m ∈ f.menus, ∀ e ∈ m.entries, ∀ e' ∈ m.entries, e.key <+: e'.key → e.key = e'.key := by
  rw [(assemble_of_distinct h).2, List.forall_mem_map]
  refine forall₂_congr fun m hm => ?_
  have hdistinct := h.menus m hm
  rw [keys_ofTree hdistinct, keyConflicts_eq_nil_iff hdistinct.keys, List.forall_mem_map]
  simp only [List.forall_mem_map]

theorem submenus_assemble_iff (h : f.Distinct) :
    (∀ m ∈ (assemble f).menus, ∀ key name, (key, Entry.submenu name) ∈ m.entries →
        ∃ target, (assemble f).menu? name = some target) ↔
      ∀ m ∈ f.menus, ∀ e ∈ m.entries, ∀ s, e.value = .menu s →
        ∃ target ∈ f.menus, target.name = s.name := by
  simp only [exists_menu?_assemble_iff h]
  rw [(assemble_of_distinct h).2, List.forall_mem_map]
  refine forall₂_congr fun m hm => ?_
  rw [Menu.entries_ofTree (h.menus m hm)]
  constructor
  · intro hall e he s hs
    refine hall e.key s.name (List.mem_map.2 ⟨e, he, ?_⟩)
    rw [hs, Entry.ofTree]
  · intro hall key name hmem
    obtain ⟨e, he, heq⟩ := List.mem_map.1 hmem
    obtain ⟨-, hvalue⟩ := Prod.mk.inj heq
    cases hv : e.value with
    | menu s =>
        rw [hv] at hvalue
        cases hvalue
        exact hall e he s hv
    | quick _ | block _ =>
        rw [hv] at hvalue
        cases hvalue

/-- What the command of an entry refers to is what its expression mentions. -/
theorem references_ofTree {v : Tree.EntryValue} {command : Command}
    (h : Entry.ofTree v = .command command) :
    ∃ x, v.expr? = some x ∧ ∀ name, name ∈ command.expr.references ↔ x.Mentions name := by
  cases v with
  | menu s => cases h
  | quick q =>
      cases h
      exact ⟨q.expr, rfl, fun _ => mem_references_ofTree⟩
  | block b =>
      cases h
      exact ⟨b.command.expr, rfl, fun _ => mem_references_ofTree⟩

theorem exists_command_of_expr? {v : Tree.EntryValue} {x : Tree.Expression}
    (h : v.expr? = some x) : ∃ command, Entry.ofTree v = .command command := by
  cases v with
  | menu s => cases h
  | quick q => exact ⟨_, rfl⟩
  | block b => exact ⟨_, rfl⟩

theorem references_assemble_iff (h : f.Distinct) :
    (∀ m ∈ (assemble f).menus, ∀ key command, (key, Entry.command command) ∈ m.entries →
        ∀ name ∈ command.expr.references, ∃ e, (assemble f).snippets.get? name = some e) ↔
      ∀ m ∈ f.menus, ∀ e ∈ m.entries, ∀ x, e.value.expr? = some x →
        ∀ name, x.Mentions name → ∃ s ∈ f.snippets, s.name = name := by
  have hget (name : Text) : (∃ e, (assemble f).snippets.get? name = some e) ↔
      ∃ s ∈ f.snippets, s.name = name := by
    rw [← Option.isSome_iff_exists, Table.get?_isSome_iff, mem_names_snippets_assemble h]
  simp only [hget]
  rw [(assemble_of_distinct h).2, List.forall_mem_map]
  refine forall₂_congr fun m hm => ?_
  rw [Menu.entries_ofTree (h.menus m hm)]
  constructor
  · intro hall e he x hx name hmentions
    obtain ⟨command, hcommand⟩ := exists_command_of_expr? hx
    obtain ⟨x', hx', hrefs⟩ := references_ofTree hcommand
    cases hx.symm.trans hx'
    refine hall e.key command (List.mem_map.2 ⟨e, he, ?_⟩) name ((hrefs name).2 hmentions)
    rw [hcommand]
  · intro hall key command hmem name hname
    obtain ⟨e, he, heq⟩ := List.mem_map.1 hmem
    obtain ⟨x, hx, hrefs⟩ := references_ofTree (Prod.mk.inj heq).2
    exact hall e he x hx name ((hrefs name).1 hname)

theorem snippetFaults_assemble_iff (h : f.Distinct) :
    (assemble f).snippets.faults = [] ↔
      (∀ s ∈ f.snippets, ∀ name, s.expr.Mentions name → ∃ t ∈ f.snippets, t.name = name) ∧
        ∀ name, ¬ TransGen f.Refers name name := by
  have hrefers : (assemble f).snippets.Refers = f.Refers :=
    funext₂ fun _ _ => propext (refers_assemble_iff h)
  rw [Snippets.faults_eq_nil_iff, hrefers]
  refine and_congr_left fun _ => ?_
  simp only [mem_names_snippets_assemble h]
  rw [(assemble_of_distinct h).1, List.forall_mem_map]
  simp only [mem_references_ofTree]

/-- A tree has no faults exactly if it keeps the rules. -/
theorem faults_eq_nil_iff_sound : faults f = [] ↔ f.Sound := by
  rw [faults_eq_nil_iff, graphFaults_eq_nil_iff]
  constructor
  · rintro ⟨h, hgraph⟩
    obtain ⟨hdefined, hacyclic⟩ := (snippetFaults_assemble_iff h).1 hgraph.snippets
    exact
      { toDistinct := h
        root := (exists_menu?_assemble_iff h).1 hgraph.root
        prefixFree := (conflicts_assemble_iff h).1 hgraph.conflicts
        submenus := (submenus_assemble_iff h).1 hgraph.submenus
        entryReferences := (references_assemble_iff h).1 hgraph.references
        snippetReferences := hdefined
        acyclic := hacyclic }
  · intro hsound
    have h := hsound.toDistinct
    refine ⟨h, ?_⟩
    exact
      { root := (exists_menu?_assemble_iff h).2 hsound.root
        conflicts := (conflicts_assemble_iff h).2 hsound.prefixFree
        submenus := (submenus_assemble_iff h).2 hsound.submenus
        references := (references_assemble_iff h).2 hsound.entryReferences
        snippets := (snippetFaults_assemble_iff h).2
          ⟨hsound.snippetReferences, hsound.acyclic⟩ }

/-- **A tree has a configuration exactly if it keeps the rules.** Otherwise it has faults, at least
one. The configuration is the one that says the same as the tree item by item, and every menu of it
is found under its own name. -/
theorem ofTree_eq_ok_iff_translates (f : Tree.File) :
    ((∃ c, ofTree f = .ok c) ↔ f.Sound) ∧
      ((∃ found, found ≠ [] ∧ ofTree f = .error found) ↔ ¬ f.Sound) ∧
      (∀ c, ofTree f = .ok c ↔ f.Sound ∧ Translates f c) ∧
      ∀ c, ofTree f = .ok c → ∀ m ∈ c.menus, c.menu? m.name = some m := by
  refine ⟨?_, ?_, fun c => ?_, fun c hc m hm => ?_⟩
  · simp only [ofTree_eq_ok_iff, faults_eq_nil_iff_sound]
    exact ⟨fun ⟨_, hsound, _⟩ => hsound, fun hsound => ⟨_, hsound, rfl⟩⟩
  · rw [← faults_eq_nil_iff_sound, ofTree]
    cases faults f with
    | nil => simp
    | cons fault more => simp
  · rw [ofTree_eq_ok_iff, faults_eq_nil_iff_sound]
    refine and_congr_right fun hsound => ?_
    have hassemble := translates_assemble hsound.toDistinct
    constructor
    · rintro rfl
      exact hassemble
    · exact hassemble.unique
  · obtain ⟨hfaults, rfl⟩ := ofTree_eq_ok_iff.1 hc
    have hdistinct := (faults_eq_nil_iff_sound.1 hfaults).toDistinct
    refine menu?_name ?_ hm
    rw [(assemble_of_distinct hdistinct).2, List.map_map]
    exact hdistinct.menuNames

end Config

end KeyMenu
