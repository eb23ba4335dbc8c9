import KeyMenu.Config.Printer
import KeyMenu.Proofs.Config.Graph

/-!
# From configurations to trees

Every well-formed configuration is described by a tree: its settings and items in their order, a
block for each command that has options, with at most one clause of each kind.

* `Config.toTree`, and `toTree` for each part of a configuration;
* `Config.ofTree_toTree`: the tree describes the configuration that it was made from;
* `Config.proper_toTree`: it follows the grammar.
-/

namespace KeyMenu

open Tree

/-! ### Trees of parts -/

def Part.toTree : Part → Tree.Piece
  | .literal value => .literal value .start
  | .reference name => .reference name .start

/-- The tree of an expression, which has parts. -/
def Expr.toTree : Expr → Tree.Expression
  | [] => ⟨.literal [] .start, []⟩
  | head :: tail => ⟨head.toTree, tail.map Part.toTree⟩

def Variable.toTree (v : Variable) : Tree.Variable := ⟨v.name, v.default, .start⟩

/-- The inline form of a command, without its options. -/
def Command.toQuick (c : Command) : Tree.QuickCommand :=
  ⟨Expr.toTree c.expr, c.name, c.togglesEcho⟩

/-- The clauses of a block; a clause that says nothing is left out. -/
def Options.toClauses (o : Options) : List Clause :=
  (if o.settingWords.isEmpty then [] else [.set (o.settingWords.map (⟨·, .start⟩))]) ++
    (if o.vars.isEmpty then [] else [.vars (o.vars.map Variable.toTree)]) ++
    (o.shell.map fun s => Clause.shell ⟨s, .start⟩).toList

def Options.toBlock (o : Options) (q : Tree.QuickCommand) : CommandBlock := ⟨o.toClauses, q, .start⟩

def Entry.toTree : Entry → Tree.EntryValue
  | .submenu name => .menu ⟨name, .start⟩
  | .command c =>
      match c.options with
      | none => .quick c.toQuick
      | some o => .block (o.toBlock c.toQuick)

def Menu.toTree (m : Menu) : Tree.Menu :=
  ⟨m.name, m.title, m.entries.map fun (key, e) => ⟨key, e.toTree, .start⟩, .start⟩

/-- The settings that are not the common ones. -/
def Settings.toTree (s : Settings) : List Tree.Setting :=
  (s.shell.map fun shell => Tree.Setting.shell ⟨shell, .start⟩).toList ++
    if s.echo then [] else [.echo false .start]

/-- The tree of a configuration. -/
def Config.toTree (c : Config) : Tree.File :=
  ⟨c.settings.toTree,
    (c.snippets.map fun (name, e) => Tree.Snippet.mk name (Expr.toTree e) .start).map .snippet ++
      (c.menus.map Menu.toTree).map .menu⟩

/-! ### The configuration of the tree -/

theorem Part.ofTree_toTree (p : Part) : ofTree p.toTree = p := by
  cases p with
  | literal _ | reference _ => rfl
  | foreign e => exact e.elim

theorem Expr.ofTree_toTree {e : Expr} (h : e ≠ []) : ofTree e.toTree = e := by
  obtain ⟨head, tail, rfl⟩ := List.exists_cons_of_ne_nil h
  rw [toTree, ofTree, Expression.pieces, List.map_cons, List.map_map, Part.ofTree_toTree]
  exact congrArg _ ((List.map_congr_left fun p _ => Part.ofTree_toTree p).trans (List.map_id _))

namespace Options

variable (o : Options) (q : Tree.QuickCommand)

theorem settings_toBlock : (o.toBlock q).settings =
    if o.settingWords.isEmpty then [] else [o.settingWords.map (⟨·, .start⟩)] := by
  unfold CommandBlock.settings toBlock toClauses
  cases o.settingWords.isEmpty <;> cases o.vars.isEmpty <;> cases o.shell <;> rfl

theorem vars_toBlock : (o.toBlock q).vars =
    if o.vars.isEmpty then [] else [o.vars.map Variable.toTree] := by
  unfold CommandBlock.vars toBlock toClauses
  cases o.settingWords.isEmpty <;> cases o.vars.isEmpty <;> cases o.shell <;> rfl

theorem shells_toBlock : (o.toBlock q).shells = (o.shell.map (⟨·, .start⟩)).toList := by
  unfold CommandBlock.shells toBlock toClauses
  cases o.settingWords.isEmpty <;> cases o.vars.isEmpty <;> cases o.shell <;> rfl

theorem words_toBlock : (o.toBlock q).settings.flatten.map (·.name) = o.settingWords := by
  rw [settings_toBlock]
  cases h : o.settingWords with
  | nil => rfl
  | cons word words => simp [List.isEmpty_cons, Function.comp_def]

theorem flatten_vars_toBlock : (o.toBlock q).vars.flatten = o.vars.map Variable.toTree := by
  rw [vars_toBlock]
  cases h : o.vars with
  | nil => rfl
  | cons v vs => simp [List.isEmpty_cons]

theorem mem_settingWords {word : Text} (h : word ∈ o.settingWords) :
    word = repeatWord ∨ word = ignoreResultWord := by
  unfold settingWords at h
  cases o.repeats <;> cases o.ignoresResult <;> simp at h <;> tauto

variable {o q}

theorem distinct_toBlock (h : o.Writable) : (o.toBlock q).Distinct := by
  refine ⟨?_, ?_, ?_, fun s hs => ?_, ?_⟩
  · rw [settings_toBlock]
    split <;> simp
  · rw [vars_toBlock]
    split <;> simp
  · rw [shells_toBlock]
    cases o.shell <;> simp
  · refine o.mem_settingWords ?_
    rw [← o.words_toBlock q]
    exact List.mem_map_of_mem hs
  · rw [flatten_vars_toBlock, List.map_map]
    exact h.1

theorem ofTree_toBlock (h : o.Writable) : ofTree (o.toBlock q) = o := by
  have hrepeat : o.settingWords.contains repeatWord = o.repeats := by
    unfold settingWords
    cases o.repeats <;> cases o.ignoresResult <;> decide
  have hignore : o.settingWords.contains ignoreResultWord = o.ignoresResult := by
    unfold settingWords
    cases o.repeats <;> cases o.ignoresResult <;> decide
  have hvars : (keepFirst (·.name) (o.toBlock q).vars.flatten).map
      (fun v => (⟨v.name, v.default⟩ : Variable)) = o.vars := by
    rw [keepFirst_eq_self (distinct_toBlock h).names, flatten_vars_toBlock, List.map_map]
    exact List.map_id _
  have hshell : (o.toBlock q).shells.getLast?.map (·.shell) = o.shell := by
    rw [shells_toBlock]
    cases o.shell <;> rfl
  rw [ofTree, hvars, hshell, words_toBlock, hrepeat, hignore]

end Options

theorem Entry.ofTree_toTree {e : Entry} (h : e.Writable) : ofTree e.toTree = e := by
  cases e with
  | submenu name => rfl
  | command c =>
      obtain ⟨expr, name, toggles, options⟩ := c
      obtain ⟨hexpr, hoptions⟩ := h
      have hquick (o : Option Options) :
          Command.ofTree (Command.toQuick ⟨expr, name, toggles, options⟩) o =
            ⟨expr, name, toggles, o⟩ := by
        rw [Command.ofTree, Command.toQuick, Expr.ofTree_toTree hexpr.1]
      cases options with
      | none => exact congrArg _ (hquick none)
      | some o =>
          rw [toTree, ofTree, Options.ofTree_toBlock (hoptions o rfl)]
          exact congrArg _ (hquick (some o))

namespace Menu

variable {m : Menu}

theorem distinct_toTree (h : m.WellFormed) : m.toTree.Distinct := by
  refine ⟨?_, fun e he b hb => ?_⟩
  · rw [toTree, List.map_map]
    exact h.keys
  · obtain ⟨⟨key, e'⟩, he', rfl⟩ := List.mem_map.1 he
    cases e' with
    | submenu name => cases hb
    | command c =>
        obtain ⟨expr, name, toggles, options⟩ := c
        cases options with
        | none => cases hb
        | some o =>
            cases hb
            exact Options.distinct_toBlock ((h.entries _ he').2.2 o rfl)

theorem ofTree_toTree (h : m.WellFormed) : ofTree m.toTree = m := by
  have hentries : (ofTree m.toTree).entries = m.entries := by
    rw [entries_ofTree (distinct_toTree h), toTree, List.map_map]
    refine (List.map_congr_left fun p hp => ?_).trans (List.map_id _)
    exact congrArg _ (Entry.ofTree_toTree (h.entries p hp).2)
  obtain ⟨name, title, entries⟩ := m
  exact congrArg _ hentries

end Menu

/-! ### The tree follows the grammar -/

theorem Options.proper_toClauses (o : Options) : ∀ cl ∈ o.toClauses, cl.Proper := by
  intro cl hcl
  simp only [toClauses, List.mem_append, List.isEmpty_iff] at hcl
  rcases hcl with (hset | hvars) | hshell
  · split at hset
    · cases hset
    · rename_i hne
      obtain rfl := List.mem_singleton.1 hset
      exact fun hnil => hne (List.map_eq_nil_iff.1 hnil)
  · split at hvars
    · cases hvars
    · rename_i hne
      obtain rfl := List.mem_singleton.1 hvars
      exact fun hnil => hne (List.map_eq_nil_iff.1 hnil)
  · obtain ⟨s, hs, rfl⟩ := Option.map_eq_some_iff.1 (Option.mem_toList.1 hshell)
    trivial

theorem Entry.proper_toTree (e : Entry) : e.toTree.Proper := by
  cases e with
  | submenu name => trivial
  | command c =>
      obtain ⟨expr, name, toggles, options⟩ := c
      cases options with
      | none => trivial
      | some o => exact o.proper_toClauses

theorem Entry.before_toTree {e : Entry} {next : Text} (h : e.Before next) :
    e.toTree.Before next := by
  intro s hs hcmd
  cases e with
  | submenu name =>
      cases hs
      exact h (congrArg _ hcmd)
  | command c =>
      obtain ⟨expr, name, toggles, options⟩ := c
      cases options <;> cases hs

theorem Menu.proper_toTree {m : Menu} (h : m.WellFormed) : m.toTree.Proper := by
  refine ⟨fun hnil => h.ne_nil (List.map_eq_nil_iff.1 hnil), ?_, fun e he => ?_⟩
  · rw [toTree, List.isChain_map]
    exact h.chain.imp fun p next hbefore => Entry.before_toTree hbefore
  · obtain ⟨p, hp, rfl⟩ := List.mem_map.1 he
    exact p.2.proper_toTree

namespace Config

variable {c : Config}

/-- The snippets and menus of a file in which the snippets come first. -/
theorem items_of_append (settings : List Tree.Setting) (snippets : List Tree.Snippet)
    (menus : List Tree.Menu) :
    let f : Tree.File := ⟨settings, snippets.map .snippet ++ menus.map .menu⟩
    f.snippets = snippets ∧ f.menus = menus := by
  simp only [File.snippets, File.menus]
  induction snippets with
  | nil =>
      induction menus with
      | nil => exact ⟨rfl, rfl⟩
      | cons m rest ih => exact ⟨ih.1, congrArg (m :: ·) ih.2⟩
  | cons s rest ih => exact ⟨congrArg (s :: ·) ih.1, ih.2⟩

theorem snippets_toTree (c : Config) : c.toTree.snippets =
    c.snippets.map fun (name, e) => ⟨name, Expr.toTree e, .start⟩ := (items_of_append _ _ _).1

theorem menus_toTree (c : Config) : c.toTree.menus = c.menus.map Menu.toTree :=
  (items_of_append _ _ _).2

theorem shells_toTree (c : Config) : c.toTree.shells = c.settings.shell.toList := by
  obtain ⟨⟨shell, echo⟩, snippets, menus⟩ := c
  cases shell <;> cases echo <;> rfl

theorem echoes_toTree (c : Config) :
    c.toTree.echoes = if c.settings.echo then [] else [false] := by
  obtain ⟨⟨shell, echo⟩, snippets, menus⟩ := c
  cases shell <;> cases echo <;> rfl

theorem distinct_toTree (h : c.WellFormed) : c.toTree.Distinct := by
  refine ⟨?_, ?_, ?_, ?_, fun m hm => ?_⟩
  · rw [shells_toTree]
    cases c.settings.shell <;> simp
  · rw [echoes_toTree]
    split <;> simp
  · rw [snippets_toTree, List.map_map]
    exact h.snippetNames
  · rw [menus_toTree, List.map_map]
    exact h.menuNames
  · rw [menus_toTree] at hm
    obtain ⟨m', hm', rfl⟩ := List.mem_map.1 hm
    exact Menu.distinct_toTree (h.menus m' hm')

theorem assemble_toTree (h : c.WellFormed) : assemble c.toTree = c := by
  obtain ⟨hsnippets, hmenus⟩ := assemble_of_distinct (distinct_toTree h)
  have hsettings : (assemble c.toTree).settings = c.settings := by
    rw [assemble, Settings.ofTree, shells_toTree, echoes_toTree]
    obtain ⟨⟨shell, echo⟩, snippets, menus⟩ := c
    cases shell <;> cases echo <;> rfl
  have hsnippets' : (assemble c.toTree).snippets = c.snippets := by
    rw [hsnippets, snippets_toTree, List.map_map]
    refine (List.map_congr_left fun p hp => ?_).trans (List.map_id _)
    exact congrArg _ (Expr.ofTree_toTree (h.snippets p hp).2.1)
  have hmenus' : (assemble c.toTree).menus = c.menus := by
    rw [hmenus, menus_toTree, List.map_map]
    exact (List.map_congr_left fun m hm => Menu.ofTree_toTree (h.menus m hm)).trans (List.map_id _)
  exact congr (congrArg₂ Config.mk hsettings hsnippets') hmenus'

/-- The tree of a well-formed configuration describes that configuration. -/
theorem ofTree_toTree (h : c.WellFormed) : ofTree c.toTree = .ok c := by
  rw [ofTree_eq_ok_iff, faults_eq_nil_iff, assemble_toTree h]
  exact ⟨⟨distinct_toTree h, h.graph⟩, rfl⟩

theorem proper_toTree (h : c.WellFormed) : c.toTree.Proper := by
  obtain ⟨root, hroot⟩ := h.soundGraph.root
  refine ⟨fun hnil => ?_, fun i hi => ?_⟩
  · have hmenus := (List.append_eq_nil_iff.1 hnil).2
    have hmem := mem_of_menu? hroot
    rw [List.map_eq_nil_iff.1 (List.map_eq_nil_iff.1 hmenus)] at hmem
    cases hmem
  · rcases List.mem_append.1 hi with hi | hi
    · obtain ⟨s, -, rfl⟩ := List.mem_map.1 hi
      trivial
    · obtain ⟨m', hm', rfl⟩ := List.mem_map.1 hi
      obtain ⟨m, hm, rfl⟩ := List.mem_map.1 hm'
      exact Menu.proper_toTree (h.menus m hm)

end Config

end KeyMenu
