import KeyMenu.Config.OfTree
import KeyMenu.Proofs.Config.Fault
import KeyMenu.Proofs.Tree.Reading

/-!
# Configurations that come from texts

What every configuration satisfies that has been read from a text. Names and keys are such as can
be written, nothing that needs a content is empty, no name is given twice, and the graph of the
menus is sound.

* `Config.WellFormed`, with `Menu.WellFormed`, `Entry.Writable` and `Expr.Writable`;
* `Config.wellFormed_of_ofText`: what has been read is well-formed.
-/

namespace KeyMenu

open Tree

/-! ### Configurations that can be written -/

/-- An expression with parts, of which the references have proper names. -/
def Expr.Writable (e : Expr) : Prop := e ≠ [] ∧ ∀ name ∈ e.references, IsName name

/-- The variables have proper names, no two of them the same. -/
def Options.Writable (o : Options) : Prop :=
  (o.vars.map (·.name)).Nodup ∧ ∀ v ∈ o.vars, IsName v.name

/-- A menu with a proper name, or a command of parts that can be written. -/
def Entry.Writable : Entry → Prop
  | .submenu name => IsName name
  | .command c => c.expr.Writable ∧ ∀ o ∈ c.options, o.Writable

/-- The next key does not turn the entry into the beginning of a block. -/
def Entry.Before (e : Entry) (next : Text) : Prop :=
  e = .submenu "cmd".toList → next.head? ≠ some '\x7b'

/-- A menu that can be written, with each key once. -/
structure Menu.WellFormed (m : Menu) : Prop where
  name : IsName m.name
  ne_nil : m.entries ≠ []
  keys : m.keys.Nodup
  entries : ∀ p ∈ m.entries, IsKey p.1 ∧ p.2.Writable
  chain : m.entries.IsChain fun p next => p.2.Before next.1

/-- A configuration that can be written, with each name once and a sound graph of menus. -/
structure Config.WellFormed (c : Config) : Prop where
  snippetNames : c.snippets.names.Nodup
  snippets : ∀ p ∈ c.snippets, IsName p.1 ∧ p.2.Writable
  menuNames : (c.menus.map (·.name)).Nodup
  menus : ∀ m ∈ c.menus, m.WellFormed
  graph : c.graphFaults = []

/-! ### From trees to configurations -/

/-- Every leaf can be spelled. -/
def Spellable (leaves : List Leaf) : Prop := ∀ leaf ∈ leaves, ∃ s, leaf.token.Spelled s

theorem Spellable.subset {leaves more : List Leaf} (h : Spellable leaves) (hsub : more ⊆ leaves) :
    Spellable more := fun leaf hl => h leaf (hsub hl)

theorem Spellable.of_flatMap {α : Type} {f : α → List Leaf} {l : List α}
    (h : Spellable (l.flatMap f)) {a : α} (ha : a ∈ l) : Spellable (f a) :=
  h.subset fun _ hl => List.mem_flatMap.2 ⟨a, ha, hl⟩

theorem Spellable.isName {leaves : List Leaf} (h : Spellable leaves) {name : Text}
    (pos : Option Position) (hmem : ⟨.name name, pos⟩ ∈ leaves) : IsName name := by
  obtain ⟨s, hname, -⟩ := h _ hmem
  exact hname

theorem mem_listed {leaf : Leaf} {items : List (List Leaf)} {item : List Leaf}
    (hitem : item ∈ items) (hleaf : leaf ∈ item) : leaf ∈ listed items := by
  cases items with
  | nil => cases hitem
  | cons first more =>
      rcases List.mem_cons.1 hitem with rfl | hmore
      · exact List.mem_append_left _ hleaf
      · exact List.mem_append_right _
          (List.mem_flatMap.2 ⟨item, hmore, List.mem_cons_of_mem _ hleaf⟩)

theorem Expr.writable_ofTree {e : Tree.Expression} (h : Spellable e.leaves) :
    (ofTree e).Writable := by
  refine ⟨List.cons_ne_nil _ _, fun name hname => ?_⟩
  obtain ⟨part, hpart, href⟩ := List.mem_filterMap.1 hname
  obtain ⟨p, hp, rfl⟩ := List.mem_map.1 hpart
  have hleaf : p.leaf ∈ e.leaves := by
    rcases List.mem_cons.1 hp with rfl | hp
    · exact List.mem_cons_self
    · exact List.mem_cons_of_mem _ (List.mem_flatMap.2 ⟨p, hp, by simp⟩)
  obtain ⟨s, hs⟩ := h _ hleaf
  cases p with
  | literal value pos => cases href
  | reference n pos =>
      cases href
      exact hs.1

theorem Tree.QuickCommand.leaves_expr_subset (q : QuickCommand) : q.expr.leaves ⊆ q.leaves :=
  fun _ hl => List.mem_append_right _ hl

theorem Options.writable_ofTree {b : CommandBlock} (h : Spellable b.leaves)
    (hdistinct : b.Distinct) : (ofTree b).Writable := by
  have hvars : (ofTree b).vars = b.vars.flatten.map fun v => ⟨v.name, v.default⟩ := by
    rw [ofTree, keepFirst_eq_self hdistinct.names]
  refine ⟨?_, fun v hv => ?_⟩
  · rw [hvars, List.map_map]
    exact hdistinct.names
  · rw [hvars] at hv
    obtain ⟨v', hv', rfl⟩ := List.mem_map.1 hv
    obtain ⟨vs, hvs, hv'⟩ := List.mem_flatten.1 hv'
    obtain ⟨cl, hcl, heq⟩ := List.mem_filterMap.1 hvs
    cases cl with
    | vars vs' =>
        cases heq
        have hleaf : ⟨.name v'.name, some v'.pos⟩ ∈ Clause.leaves (.vars vs) :=
          List.mem_cons_of_mem _ (mem_listed (List.mem_map_of_mem hv') List.mem_cons_self)
        refine h.isName (some v'.pos) ?_
        refine List.mem_cons_of_mem _ (List.mem_cons_of_mem _ (List.mem_append_left _ ?_))
        exact List.mem_flatMap.2 ⟨_, hcl, hleaf⟩
    | set _ | shell _ => cases heq

theorem Entry.writable_ofTree {v : Tree.EntryValue} (h : Spellable v.leaves)
    (hdistinct : ∀ b, v = .block b → b.Distinct) : (ofTree v).Writable := by
  cases v with
  | menu s => exact h.isName (some s.pos) List.mem_cons_self
  | quick q =>
      exact ⟨Expr.writable_ofTree (h.subset q.leaves_expr_subset), fun _ ho => nomatch ho⟩
  | block b =>
      refine ⟨Expr.writable_ofTree (h.subset fun l hl => ?_), fun o ho => ?_⟩
      · have hcommand : l ∈ b.command.leaves := b.command.leaves_expr_subset hl
        refine List.mem_cons_of_mem _ (List.mem_cons_of_mem _ (List.mem_append_right _ ?_))
        exact List.mem_append_left _ hcommand
      · cases ho
        exact Options.writable_ofTree h (hdistinct b rfl)

/-- The entries of a menu in which no key is given twice. -/
theorem Menu.entries_ofTree {m : Tree.Menu} (h : m.Distinct) :
    (ofTree m).entries = m.entries.map fun e => (e.key, Entry.ofTree e.value) := by
  rw [ofTree, keepFirst_eq_self h.keys]

theorem Menu.wellFormed_ofTree {m : Tree.Menu} (h : Spellable m.leaves) (hproper : m.Proper)
    (hdistinct : m.Distinct) : (ofTree m).WellFormed := by
  obtain ⟨hne, hchain, -⟩ := hproper
  have hentries := Menu.entries_ofTree hdistinct
  refine ⟨?_, ?_, ?_, fun p hp => ?_, ?_⟩
  · refine h.isName none ?_
    exact List.mem_append_right _ List.mem_cons_self
  · rw [hentries]
    exact fun hnil => hne (List.map_eq_nil_iff.1 hnil)
  · rw [keys, hentries, Table.names, List.map_map]
    exact hdistinct.keys
  · rw [hentries] at hp
    obtain ⟨e, he, rfl⟩ := List.mem_map.1 hp
    have hleaves : e.leaves ⊆ m.leaves := fun l hl => by
      refine List.mem_append_right _ (List.mem_cons_of_mem _ (List.mem_cons_of_mem _ ?_))
      exact List.mem_append_left _ (List.mem_flatMap.2 ⟨e, he, hl⟩)
    have he' := h.subset hleaves
    obtain ⟨s, hkey, -⟩ := he' _ List.mem_cons_self
    refine ⟨hkey, Entry.writable_ofTree (he'.subset fun l hl => ?_) (hdistinct.blocks e he)⟩
    exact List.mem_cons_of_mem _ (List.mem_cons_of_mem _ hl)
  · -- only a reference to a menu called `cmd` could be taken for a block
    rw [hentries, List.isChain_map]
    refine hchain.imp fun e next hbefore hsub => ?_
    cases hv : e.value with
    | menu s =>
        rw [hv] at hsub
        exact hbefore s hv (Entry.submenu.inj hsub)
    | quick _ | block _ =>
        rw [hv] at hsub
        cases hsub

namespace Config

/-- The parts of a configuration whose tree gives no name twice. -/
theorem assemble_of_distinct {f : Tree.File} (h : f.Distinct) :
    (assemble f).snippets = f.snippets.map (fun s => (s.name, Expr.ofTree s.expr)) ∧
      (assemble f).menus = f.menus.map Menu.ofTree := by
  rw [assemble, keepFirst_eq_self h.snippets, keepFirst_eq_self h.menuNames]
  exact ⟨rfl, rfl⟩

theorem wellFormed_assemble {f : Tree.File} (h : Spellable f.leaves) (hproper : f.Proper)
    (hdistinct : f.Distinct) (hgraph : graphFaults (assemble f) = []) :
    (assemble f).WellFormed := by
  obtain ⟨hsnippets, hmenus⟩ := assemble_of_distinct hdistinct
  have hitems : Spellable (f.items.flatMap Item.leaves) :=
    h.subset fun _ hl => List.mem_append_right _ hl
  refine ⟨?_, fun p hp => ?_, ?_, fun m hm => ?_, hgraph⟩
  · rw [hsnippets, Table.names, List.map_map]
    exact hdistinct.snippets
  · rw [hsnippets] at hp
    obtain ⟨s, hs, rfl⟩ := List.mem_map.1 hp
    obtain ⟨i, hi, heq⟩ := List.mem_filterMap.1 hs
    cases i with
    | snippet s' =>
        cases heq
        have hs' : Spellable s.leaves := hitems.of_flatMap hi
        refine ⟨hs'.isName none (by simp [Tree.Snippet.leaves]), Expr.writable_ofTree ?_⟩
        exact hs'.subset fun l hl => by simp [Tree.Snippet.leaves, hl]
    | menu _ => cases heq
  · rw [hmenus, List.map_map]
    exact hdistinct.menuNames
  · rw [hmenus] at hm
    obtain ⟨m', hm', rfl⟩ := List.mem_map.1 hm
    obtain ⟨i, hi, heq⟩ := List.mem_filterMap.1 hm'
    cases i with
    | menu m'' =>
        cases heq
        exact Menu.wellFormed_ofTree (hitems.of_flatMap hi) (hproper.2 _ hi)
          (hdistinct.menus m' hm')
    | snippet _ => cases heq

/-- What a text has to be like to be read as a configuration. -/
theorem ofText_eq_ok_iff {text : Text} {c : Config} :
    ofText text = .ok c ↔ ∃ f, Tree.File.parse text = .ok f ∧ ofTree f = .ok c := by
  unfold ofText
  cases hp : Tree.File.parse text with
  | error error => simp
  | ok f => cases ht : ofTree f <;> simp [ht]

theorem exists_of_isSome_ofText (text : Text) (h : (ofText text).toOption.isSome = true) :
    ∃ c, ofText text = .ok c := by
  cases hc : ofText text with
  | error error =>
      rw [hc] at h
      cases h
  | ok c => exact ⟨c, rfl⟩

theorem ofTree_eq_ok_iff {f : Tree.File} {c : Config} :
    ofTree f = .ok c ↔ faults f = [] ∧ assemble f = c := by
  unfold ofTree
  cases faults f <;> simp

/-- A configuration that has been read from a text is well-formed. -/
theorem wellFormed_of_ofText {text : Text} {c : Config} (h : ofText text = .ok c) :
    c.WellFormed := by
  obtain ⟨f, hparse, htree⟩ := ofText_eq_ok_iff.1 h
  obtain ⟨hfaults, rfl⟩ := ofTree_eq_ok_iff.1 htree
  obtain ⟨hdistinct, hgraph⟩ := faults_eq_nil_iff.1 hfaults
  exact wellFormed_assemble (Tree.File.spelled_of_parse hparse) (Tree.File.proper_of_parse hparse)
    hdistinct hgraph

end Config

end KeyMenu
