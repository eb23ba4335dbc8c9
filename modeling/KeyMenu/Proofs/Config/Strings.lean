import KeyMenu.Proofs.Config.Graph
import KeyMenu.Proofs.Config.Reordered
import KeyMenu.Proofs.Expr.Acyclic

/-!
# The strings of a configuration

Titles, display names, literals, defaults and the words of shells are the texts of a configuration
that are written as strings. Keys and names are not, and it is keys and names alone that decide
whether a configuration is well-formed.

* `Config.strings`, `Config.mapStrings`: all strings, and other strings in their places;
* `Config.WellFormed.mapStrings`: any others do;
* `Config.mapStrings_eq_self`, `Config.strings_mapStrings`: what can be told of a map from the
  strings;
* `Config.Alike.mem_strings`: the order of menus, entries and snippets makes no difference.
-/

namespace KeyMenu

variable {f : Text → Text}

/-! ### All strings, and others in their places -/

/-- The values of a table, changed in their places. -/
def Table.mapValues {α β : Type} (g : α → β) (t : Table α) : Table β := t.map fun p => (p.1, g p.2)

def Part.strings : Part → List Text
  | .literal value => [value]
  | .reference _ => []

def Part.mapStrings (f : Text → Text) : Part → Part
  | .literal value => .literal (f value)
  | .reference name => .reference name

def Expr.strings (e : Expr) : List Text := e.flatMap Part.strings

def Expr.mapStrings (f : Text → Text) (e : Expr) : Expr := e.map (Part.mapStrings f)

def Shell.mapStrings (f : Text → Text) (s : Shell) : Shell := ⟨f s.program, s.args.map f⟩

def Variable.strings (v : Variable) : List Text := v.default.toList

def Variable.mapStrings (f : Text → Text) (v : Variable) : Variable :=
  { v with default := v.default.map f }

def Options.strings (o : Options) : List Text :=
  o.vars.flatMap Variable.strings ++ o.shell.toList.flatMap Shell.words

def Options.mapStrings (f : Text → Text) (o : Options) : Options :=
  { o with vars := o.vars.map (Variable.mapStrings f), shell := o.shell.map (Shell.mapStrings f) }

def Command.strings (c : Command) : List Text :=
  c.name.toList ++ c.expr.strings ++ c.options.toList.flatMap Options.strings

def Command.mapStrings (f : Text → Text) (c : Command) : Command :=
  { c with
    expr := c.expr.mapStrings f
    name := c.name.map f
    options := c.options.map (Options.mapStrings f) }

def Entry.strings : Entry → List Text
  | .submenu _ => []
  | .command c => c.strings

def Entry.mapStrings (f : Text → Text) : Entry → Entry
  | .submenu name => .submenu name
  | .command c => .command (c.mapStrings f)

def Menu.strings (m : Menu) : List Text :=
  m.title.toList ++ m.entries.flatMap fun p => p.2.strings

def Menu.mapStrings (f : Text → Text) (m : Menu) : Menu :=
  { m with title := m.title.map f, entries := m.entries.mapValues (Entry.mapStrings f) }

def Settings.strings (s : Settings) : List Text := s.shell.toList.flatMap Shell.words

def Settings.mapStrings (f : Text → Text) (s : Settings) : Settings :=
  { s with shell := s.shell.map (Shell.mapStrings f) }

/-- All strings of a configuration: titles, display names, literals, defaults and the words of
shells. -/
def Config.strings (c : Config) : List Text :=
  c.settings.strings ++ (c.snippets.flatMap fun p => Expr.strings p.2) ++
    c.menus.flatMap Menu.strings

/-- A configuration with other strings in the places of its own; all else stays, and stays where it
is. -/
def Config.mapStrings (f : Text → Text) (c : Config) : Config :=
  { settings := c.settings.mapStrings f
    snippets := c.snippets.mapValues (Expr.mapStrings f)
    menus := c.menus.map (Menu.mapStrings f) }

/-! ### What a map does to the strings -/

theorem Expr.strings_mapStrings (e : Expr) : (e.mapStrings f).strings = e.strings.map f := by
  rw [strings, strings, mapStrings, List.flatMap_map, List.map_flatMap]
  refine List.flatMap_congr fun part _ => ?_
  cases part with
  | literal | reference => rfl
  | foreign element => cases element

theorem Shell.words_mapStrings (s : Shell) : (s.mapStrings f).words = s.words.map f := rfl

theorem shellWords_map (s : Option Shell) :
    (s.map (Shell.mapStrings f)).toList.flatMap Shell.words =
      (s.toList.flatMap Shell.words).map f := by
  cases s with
  | none => rfl
  | some s => simp [Shell.words_mapStrings]

theorem Options.strings_mapStrings (o : Options) : (o.mapStrings f).strings = o.strings.map f := by
  have hvars : (o.vars.map (Variable.mapStrings f)).flatMap Variable.strings =
      (o.vars.flatMap Variable.strings).map f := by
    rw [List.flatMap_map, List.map_flatMap]
    refine List.flatMap_congr fun v _ => ?_
    rw [Variable.strings, Variable.strings, Variable.mapStrings, Option.toList_map]
  rw [strings, strings, List.map_append, ← hvars, ← shellWords_map]
  rfl

theorem Command.strings_mapStrings (c : Command) : (c.mapStrings f).strings = c.strings.map f := by
  have hoptions : (c.options.map (Options.mapStrings f)).toList.flatMap Options.strings =
      (c.options.toList.flatMap Options.strings).map f := by
    cases c.options with
    | none => rfl
    | some o => simp [Options.strings_mapStrings]
  rw [strings, strings, List.map_append, List.map_append, ← hoptions, ← Expr.strings_mapStrings,
    ← Option.toList_map]
  rfl

theorem Entry.strings_mapStrings (e : Entry) : (e.mapStrings f).strings = e.strings.map f := by
  cases e with
  | submenu name => rfl
  | command c => exact c.strings_mapStrings

theorem Menu.strings_mapStrings (m : Menu) : (m.mapStrings f).strings = m.strings.map f := by
  rw [strings, strings, mapStrings, Table.mapValues, List.flatMap_map, List.map_append,
    List.map_flatMap, Option.toList_map]
  simp only [Entry.strings_mapStrings]

/-- The strings of the result are the images of the strings, in the same order. -/
theorem Config.strings_mapStrings (c : Config) : (c.mapStrings f).strings = c.strings.map f := by
  rw [strings, strings, mapStrings, Table.mapValues, List.flatMap_map, List.flatMap_map,
    List.map_append, List.map_append, List.map_flatMap, List.map_flatMap, Settings.strings,
    Settings.strings, ← shellWords_map]
  simp only [Expr.strings_mapStrings, Menu.strings_mapStrings]
  rfl

/-! ### Maps that change nothing -/

/-- Where the elements stay as long as their strings do, so does the list. -/
theorem map_eq_self {α : Type} {g : α → α} {strings : α → List Text} {l : List α}
    (hg : ∀ a, (∀ s ∈ strings a, f s = s) → g a = a) (h : ∀ s ∈ l.flatMap strings, f s = s) :
    l.map g = l := by
  have hself : ∀ a ∈ l, g a = a := fun a ha =>
    hg a fun s hs => h s (List.mem_flatMap.2 ⟨a, ha, hs⟩)
  rw [List.map_congr_left hself, List.map_id']

theorem option_map_eq_self {α : Type} {g : α → α} {strings : α → List Text} {x : Option α}
    (hg : ∀ a, (∀ s ∈ strings a, f s = s) → g a = a)
    (h : ∀ s ∈ x.toList.flatMap strings, f s = s) : x.map g = x := by
  cases x with
  | none => rfl
  | some a => exact congrArg some (hg a (by simpa using h))

theorem text_map_eq_self {x : Option Text} (h : ∀ s ∈ x.toList, f s = s) : x.map f = x := by
  cases x with
  | none => rfl
  | some s => exact congrArg some (h s List.mem_cons_self)

theorem mapValues_eq_self {α : Type} {g : α → α} {strings : α → List Text} {t : Table α}
    (hg : ∀ a, (∀ s ∈ strings a, f s = s) → g a = a)
    (h : ∀ s ∈ t.flatMap fun p => strings p.2, f s = s) : t.mapValues g = t :=
  map_eq_self (fun p hp => congrArg (p.1, ·) (hg p.2 hp)) h

theorem Part.mapStrings_eq_self (p : Part) (h : ∀ s ∈ p.strings, f s = s) :
    p.mapStrings f = p := by
  cases p with
  | literal value => exact congrArg Part.literal (h value List.mem_cons_self)
  | reference name => rfl
  | foreign element => cases element

theorem Expr.mapStrings_eq_self (e : Expr) (h : ∀ s ∈ e.strings, f s = s) : e.mapStrings f = e :=
  map_eq_self Part.mapStrings_eq_self h

theorem Shell.mapStrings_eq_self (s : Shell) (h : ∀ w ∈ s.words, f w = w) :
    s.mapStrings f = s := by
  obtain ⟨hprogram, hargs⟩ := List.forall_mem_cons.1 h
  rw [mapStrings, hprogram, List.map_congr_left hargs, List.map_id']

theorem Variable.mapStrings_eq_self (v : Variable) (h : ∀ s ∈ v.strings, f s = s) :
    v.mapStrings f = v := by
  rw [mapStrings, text_map_eq_self h]

theorem Options.mapStrings_eq_self (o : Options) (h : ∀ s ∈ o.strings, f s = s) :
    o.mapStrings f = o := by
  obtain ⟨hvars, hshell⟩ := List.forall_mem_append.1 h
  rw [mapStrings, map_eq_self Variable.mapStrings_eq_self hvars,
    option_map_eq_self Shell.mapStrings_eq_self hshell]

theorem Command.mapStrings_eq_self (c : Command) (h : ∀ s ∈ c.strings, f s = s) :
    c.mapStrings f = c := by
  obtain ⟨hfront, hoptions⟩ := List.forall_mem_append.1 h
  obtain ⟨hname, hexpr⟩ := List.forall_mem_append.1 hfront
  rw [mapStrings, Expr.mapStrings_eq_self _ hexpr, text_map_eq_self hname,
    option_map_eq_self Options.mapStrings_eq_self hoptions]

theorem Entry.mapStrings_eq_self (e : Entry) (h : ∀ s ∈ e.strings, f s = s) :
    e.mapStrings f = e := by
  cases e with
  | submenu name => rfl
  | command c => exact congrArg Entry.command (c.mapStrings_eq_self h)

theorem Menu.mapStrings_eq_self (m : Menu) (h : ∀ s ∈ m.strings, f s = s) :
    m.mapStrings f = m := by
  obtain ⟨htitle, hentries⟩ := List.forall_mem_append.1 h
  rw [mapStrings, text_map_eq_self htitle, mapValues_eq_self Entry.mapStrings_eq_self hentries]

/-- A map that keeps every string of a configuration keeps the configuration. -/
theorem Config.mapStrings_eq_self (c : Config) (h : ∀ s ∈ c.strings, f s = s) :
    c.mapStrings f = c := by
  obtain ⟨hfront, hmenus⟩ := List.forall_mem_append.1 h
  obtain ⟨hsettings, hsnippets⟩ := List.forall_mem_append.1 hfront
  rw [mapStrings, Settings.mapStrings, option_map_eq_self Shell.mapStrings_eq_self hsettings,
    mapValues_eq_self Expr.mapStrings_eq_self hsnippets, map_eq_self Menu.mapStrings_eq_self hmenus]

/-! ### Well-formed configurations -/

namespace Table

variable {α β : Type} {g : α → β}

@[simp] theorem names_mapValues (t : Table α) : (t.mapValues g).names = t.names := by
  rw [names, names, mapValues, List.map_map]
  rfl

theorem get?_mapValues (t : Table α) (name : Text) :
    (t.mapValues g).get? name = (t.get? name).map g := by
  induction t with
  | nil => rfl
  | cons p rest ih =>
      rw [mapValues, List.map_cons, get?_cons, ← mapValues, ih, get?_cons]
      split <;> rfl

end Table

@[simp] theorem Expr.references_mapStrings (e : Expr) :
    (e.mapStrings f).references = e.references := by
  rw [references, references, mapStrings, List.filterMap_map]
  refine List.filterMap_congr fun part _ => ?_
  cases part with
  | literal | reference => rfl
  | foreign element => cases element

/-- Strings have no part in what is wrong with snippets. -/
theorem Snippets.faults_mapStrings {table : Snippets} (h : table.faults = []) :
    Snippets.faults (table.mapValues (Expr.mapStrings f)) = [] := by
  obtain ⟨hdefined, hacyclic⟩ := faults_eq_nil_iff.1 h
  have hrefers : Refers (table.mapValues (Expr.mapStrings f)) = Refers table := by
    funext name reference
    simp [Refers, Table.get?_mapValues]
  refine faults_eq_nil_iff.2
    ⟨List.forall_mem_map.2 fun p hp reference href => ?_, hrefers ▸ hacyclic⟩
  rw [Table.names_mapValues]
  exact hdefined p hp reference (by simpa using href)

theorem Expr.Writable.mapStrings {e : Expr} (h : e.Writable) : (e.mapStrings f).Writable :=
  ⟨fun hnil => h.1 (List.map_eq_nil_iff.1 hnil), by simpa using h.2⟩

theorem Options.Writable.mapStrings {o : Options} (h : o.Writable) : (o.mapStrings f).Writable := by
  obtain ⟨hnames, hname⟩ := h
  refine ⟨?_, List.forall_mem_map.2 hname⟩
  rwa [Options.mapStrings, List.map_map]

theorem Entry.Writable.mapStrings {e : Entry} (h : e.Writable) : (e.mapStrings f).Writable := by
  cases e with
  | submenu name => exact h
  | command c =>
      refine ⟨h.1.mapStrings, fun o ho => ?_⟩
      obtain ⟨o', ho', rfl⟩ := Option.map_eq_some_iff.1 ho
      exact (h.2 o' ho').mapStrings

theorem Menu.keys_mapStrings (m : Menu) : (m.mapStrings f).keys = m.keys :=
  m.entries.names_mapValues

theorem Menu.WellFormed.mapStrings {m : Menu} (h : m.WellFormed) : (m.mapStrings f).WellFormed := by
  refine ⟨h.name, fun hnil => h.ne_nil (List.map_eq_nil_iff.1 hnil), ?_,
    List.forall_mem_map.2 fun p hp => ⟨(h.entries p hp).1, (h.entries p hp).2.mapStrings⟩, ?_⟩
  · rw [keys_mapStrings]
    exact h.keys
  · -- what names a menu still does
    refine (List.isChain_map _).2 (h.chain.imp fun p next hbefore hsub => hbefore ?_)
    cases hp : p.2 with
    | submenu name => simpa [hp, Entry.mapStrings] using hsub
    | command c => simp [hp, Entry.mapStrings] at hsub

namespace Config

variable {c : Config}

theorem menu?_mapStrings (c : Config) (name : Text) :
    (c.mapStrings f).menu? name = (c.menu? name).map (Menu.mapStrings f) := by
  rw [menu?, mapStrings, List.find?_map]
  rfl

theorem SoundGraph.mapStrings (h : c.SoundGraph) : (c.mapStrings f).SoundGraph := by
  have hmenu {name : Text} (hname : ∃ m, c.menu? name = some m) :
      ∃ m, (c.mapStrings f).menu? name = some m := by
    obtain ⟨m, hm⟩ := hname
    exact ⟨m.mapStrings f, by rw [menu?_mapStrings, hm]; rfl⟩
  refine ⟨hmenu h.root, List.forall_mem_map.2 fun m hm => ?_,
    List.forall_mem_map.2 fun m hm _ _ he => ?_, List.forall_mem_map.2 fun m hm _ _ he => ?_,
    Snippets.faults_mapStrings h.snippets⟩
  · rw [Menu.keys_mapStrings]
    exact h.conflicts m hm
  · obtain ⟨⟨key, e⟩, hp, heq⟩ := List.mem_map.1 he
    cases e with
    | submenu name =>
        cases heq
        exact hmenu (h.submenus m hm key _ hp)
    | command command => cases heq
  · obtain ⟨⟨key, e⟩, hp, heq⟩ := List.mem_map.1 he
    cases e with
    | submenu name => cases heq
    | command command =>
        cases heq
        intro name hname
        rw [Command.mapStrings, Expr.references_mapStrings] at hname
        obtain ⟨e, he⟩ := h.references m hm key command hp name hname
        exact ⟨e.mapStrings f, by rw [Config.mapStrings, Table.get?_mapValues, he]; rfl⟩

/-- With any other strings a configuration is well-formed too. -/
theorem WellFormed.mapStrings (h : c.WellFormed) : (c.mapStrings f).WellFormed := by
  refine ⟨?_, List.forall_mem_map.2 fun p hp => ?_, ?_,
    List.forall_mem_map.2 fun m hm => (h.menus m hm).mapStrings,
    graphFaults_eq_nil_iff.2 h.soundGraph.mapStrings⟩
  · rw [Config.mapStrings, Table.names_mapValues]
    exact h.snippetNames
  · exact ⟨(h.snippets p hp).1, (h.snippets p hp).2.mapStrings⟩
  · rw [Config.mapStrings, List.map_map]
    exact h.menuNames

/-! ### Order makes no difference -/

theorem WellFormed.menu?_of_mem (h : c.WellFormed) {m : Menu} (hm : m ∈ c.menus) :
    c.menu? m.name = some m := by
  have hnames : (Table.names (c.menus.map fun m => (m.name, m))).Nodup := by
    rw [Table.names, List.map_map]
    exact h.menuNames
  rw [← get?_menus, Table.get?_eq_some_iff hnames]
  exact List.mem_map_of_mem hm

theorem Alike.refl (c : Config) : c.Alike c := by
  refine ⟨rfl, .refl _, fun name => ?_⟩
  cases c.menu? name with
  | none => exact .none
  | some m => exact .some ⟨rfl, rfl, .refl _⟩

/-- Configurations that differ in their order only have the same strings. -/
theorem Alike.mem_strings {a b : Config} (hb : b.WellFormed) (h : a.Alike b) {s : Text}
    (hs : s ∈ b.strings) : s ∈ a.strings := by
  rcases List.mem_append.1 hs with hs | hs
  · refine List.mem_append_left _ ?_
    rcases List.mem_append.1 hs with hs | hs
    · exact List.mem_append_left _ (h.settings ▸ hs)
    · obtain ⟨p, hp, hs⟩ := List.mem_flatMap.1 hs
      exact List.mem_append_right _ (List.mem_flatMap.2 ⟨p, h.snippets.mem_iff.2 hp, hs⟩)
  · obtain ⟨n, hn, hs⟩ := List.mem_flatMap.1 hs
    have hfound := hb.menu?_of_mem hn
    obtain ⟨-, hnone⟩ | ⟨m, n', hm, hn', halike⟩ := h.cases_menu n.name
    · cases hnone.symm.trans hfound
    · cases hn'.symm.trans hfound
      refine List.mem_append_right _ (List.mem_flatMap.2 ⟨m, mem_of_menu? hm, ?_⟩)
      rcases List.mem_append.1 hs with hs | hs
      · exact List.mem_append_left _ (halike.title ▸ hs)
      · obtain ⟨p, hp, hs⟩ := List.mem_flatMap.1 hs
        exact List.mem_append_right _ (List.mem_flatMap.2 ⟨p, halike.entries.mem_iff.2 hp, hs⟩)

end Config

end KeyMenu
