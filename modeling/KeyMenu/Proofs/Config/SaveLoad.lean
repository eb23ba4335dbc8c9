import KeyMenu.Config.Load
import KeyMenu.Proofs.Config.RoundTrip
import KeyMenu.Proofs.Config.Strings
import KeyMenu.Proofs.File.Disk
import KeyMenu.Proofs.Text.Encoding
import KeyMenu.Proofs.Tree.Newline

/-!
# Files that are written and read

A configuration that is written to a file comes back from it, except that every line end inside its
strings has become one LF. All that stands between the strings is written without CR, and a string
is followed by its closing quote, so that unifying the line ends of the file does the same as
unifying those of every string.

* `Config.unifyNewlines_render`, after a lemma for each part that is written;
* `Config.load_of_save`: the file that has been written is read;
* `Config.save_load`: the main theorem.
-/

namespace KeyMenu

open Text KeyMenu.Tree

/-! ### Lines -/

/-- Each line is read as the one in its place. -/
abbrev UnifiesEach : List Text → List Text → Prop := List.Forall₂ Unifies

theorem unifiesEach_map {α : Type} {g g' : α → Text} {l : List α}
    (h : ∀ a ∈ l, Unifies (g a) (g' a)) : UnifiesEach (l.map g) (l.map g') := by
  rw [UnifiesEach, List.forall₂_map_left_iff, List.forall₂_map_right_iff, List.forall₂_same]
  exact h

theorem unifiesEach_flatMap {α : Type} {g g' : α → List Text} {l : List α}
    (h : ∀ a ∈ l, UnifiesEach (g a) (g' a)) : UnifiesEach (l.flatMap g) (l.flatMap g') := by
  induction l with
  | nil => exact .nil
  | cons a l ih =>
      obtain ⟨ha, hl⟩ := List.forall_mem_cons.1 h
      exact List.rel_append ha (ih hl)

theorem cr_notMem_of_isName {name : Text} (h : IsName name) : '\r' ∉ name :=
  fun hmem => absurd (h.2 _ hmem) (by decide)

theorem cr_notMem_of_isKey {key : Text} (h : IsKey key) : '\r' ∉ key :=
  fun hmem => absurd (h.2.1 _ hmem) (by decide)

/-! ### Parts -/

theorem unifies_expr {e : Expr} (h : e.Writable) :
    Unifies e.render (e.mapStrings unifyNewlines).render := by
  rw [Expr.render, Expr.render, Expr.mapStrings, List.map_map]
  refine Unifies.joinWith _ (by decide) (unifiesEach_map fun part hpart => ?_)
  cases part with
  | literal value => exact unifies_spelling value
  | reference name =>
      have hname : IsName name := h.2 name (List.mem_filterMap.2 ⟨_, hpart, rfl⟩)
      have hsign : Unifies ['$'] ['$'] := unifies_self (by decide)
      exact hsign.append (unifies_self (cr_notMem_of_isName hname))
  | foreign element => cases element

theorem unifies_shell (s : Shell) : Unifies s.render (s.mapStrings unifyNewlines).render := by
  have hwords : UnifiesEach (s.words.map spelling)
      ((s.mapStrings unifyNewlines).words.map spelling) := by
    rw [Shell.words_mapStrings, List.map_map]
    exact unifiesEach_map fun word _ => unifies_spelling word
  exact (unifies_self (s := "shell ".toList) (by decide)).append
    (Unifies.joinWith [' '] (by decide) hwords)

theorem unifies_variable {v : Variable} (h : IsName v.name) :
    Unifies v.render (v.mapStrings unifyNewlines).render := by
  obtain ⟨name, default⟩ := v
  have hname : Unifies name name := unifies_self (cr_notMem_of_isName h)
  cases default with
  | none => exact hname.append (unifies_self List.not_mem_nil)
  | some value =>
      exact hname.append ((unifies_self (s := ['=']) (by decide)).append (unifies_spelling value))

/-- A string that may be missing, and what follows it. -/
theorem unifies_optional (t : Option Text) (after : Text) (h : '\r' ∉ after) :
    Unifies (t.elim [] fun s => s.spelling ++ after)
      ((t.map unifyNewlines).elim [] fun s => s.spelling ++ after) := by
  cases t with
  | none => exact unifies_self List.not_mem_nil
  | some s => exact (unifies_spelling s).append (unifies_self h)

theorem unifies_quick {c : Command} (h : c.expr.Writable) :
    Unifies c.renderQuick (c.mapStrings unifyNewlines).renderQuick := by
  obtain ⟨expr, name, toggles, options⟩ := c
  have hecho : Unifies (if toggles then ['@'] else []) (if toggles then ['@'] else []) := by
    cases toggles <;> exact unifies_self (by decide)
  have hname := unifies_optional name " - ".toList (by decide)
  have hquick := (hname.append hecho).append (unifies_expr h)
  cases name <;> exact hquick

theorem unifiesEach_clauses {o : Options} (h : o.Writable) :
    UnifiesEach o.renderClauses (o.mapStrings unifyNewlines).renderClauses := by
  have hwords : (o.mapStrings unifyNewlines).settingWords = o.settingWords := rfl
  have hvars : (o.mapStrings unifyNewlines).vars = o.vars.map (Variable.mapStrings unifyNewlines) :=
    rfl
  rw [Options.renderClauses, Options.renderClauses, hwords, hvars, List.isEmpty_map, List.map_map]
  refine List.rel_append (List.rel_append ?_ ?_) ?_
  · -- the words of a `set` clause are two words of the language
    have hset : ∀ word ∈ o.settingWords, Unifies word word := fun word hword => by
      rcases o.mem_settingWords hword with rfl | rfl <;> exact unifies_self (by decide)
    have hjoined := Unifies.joinWith ", ".toList (by decide) (List.forall₂_same.2 hset)
    split
    · exact .nil
    · exact .cons ((unifies_self (by decide)).append hjoined) .nil
  · have hjoined := Unifies.joinWith ", ".toList (by decide)
      (unifiesEach_map fun v hv => unifies_variable (h.2 v hv))
    split
    · exact .nil
    · exact .cons ((unifies_self (by decide)).append hjoined) .nil
  · cases hshell : o.shell with
    | none => simp [Options.mapStrings, hshell]
    | some s => simpa [Options.mapStrings, hshell] using unifies_shell s

/-! ### Entries and menus -/

theorem unifiesEach_command {c : Command} (h : (Entry.command c).Writable) :
    UnifiesEach c.renderLines (c.mapStrings unifyNewlines).renderLines := by
  obtain ⟨hexpr, hoptions⟩ := h
  have hquick := unifies_quick hexpr
  obtain ⟨expr, name, toggles, options⟩ := c
  cases options with
  | none => exact .cons hquick .nil
  | some o =>
      have hinside := List.rel_append (unifiesEach_clauses (hoptions o rfl)) (.cons hquick .nil)
      have hindent {lines lines' : List Text} (h : UnifiesEach lines lines') :
          UnifiesEach (lines.map ("        ".toList ++ ·)) (lines'.map ("        ".toList ++ ·)) :=
        List.rel_map (fun _ _ hline => (unifies_self (by decide)).append hline) h
      exact .cons (unifies_self (by decide))
        (List.rel_append (hindent hinside) (.cons (unifies_self (by decide)) .nil))

theorem unifiesEach_entry {key : Text} {e : Entry} (hkey : IsKey key) (h : e.Writable) :
    UnifiesEach (Menu.renderEntry key e) (Menu.renderEntry key (e.mapStrings unifyNewlines)) := by
  have hkey : Unifies ("    ".toList ++ key ++ ": ".toList) ("    ".toList ++ key ++ ": ".toList) :=
    ((unifies_self (by decide)).append (unifies_self (cr_notMem_of_isKey hkey))).append
      (unifies_self (by decide))
  cases e with
  | submenu name => exact .cons (hkey.append (unifies_self (cr_notMem_of_isName h))) .nil
  | command c =>
      have hlines := unifiesEach_command h
      rw [Menu.renderEntry, Entry.mapStrings, Menu.renderEntry]
      generalize c.renderLines = lines at hlines
      generalize (c.mapStrings unifyNewlines).renderLines = lines' at hlines
      cases hlines with
      | nil => exact .nil
      | cons hfirst hmore => exact .cons (hkey.append hfirst) hmore

theorem unifies_menu {m : Menu} (h : m.WellFormed) :
    Unifies m.render (m.mapStrings unifyNewlines).render := by
  have hentries : UnifiesEach (m.entries.flatMap fun p => Menu.renderEntry p.1 p.2)
      ((m.mapStrings unifyNewlines).entries.flatMap fun p => Menu.renderEntry p.1 p.2) := by
    rw [Menu.mapStrings, Table.mapValues, List.flatMap_map]
    exact unifiesEach_flatMap fun p hp => unifiesEach_entry (h.entries p hp).1 (h.entries p hp).2
  have hname := unifies_self (cr_notMem_of_isName h.name)
  obtain ⟨name, title, entries⟩ := m
  have hheader := (((unifies_self (s := "menu ".toList) (by decide)).append
    (unifies_optional title [' '] (by decide))).append hname).append
      (unifies_self (s := " \x7b".toList) (by decide))
  refine Unifies.joinWith _ (by decide) (List.rel_append (List.rel_append (.cons ?_ .nil) hentries)
    (.cons (unifies_self (by decide)) .nil))
  cases title <;> exact hheader

/-! ### The whole text -/

theorem unifiesEach_settings (s : Settings) :
    UnifiesEach s.renderLines (s.mapStrings unifyNewlines).renderLines := by
  obtain ⟨shell, echo⟩ := s
  refine List.rel_append ?_ ?_
  · cases shell with
    | none => exact .nil
    | some shell => exact .cons (unifies_shell shell) .nil
  · cases echo with
    | true => exact .nil
    | false => exact .cons (unifies_self (by decide)) .nil

theorem unifies_snippet {name : Text} {e : Expr} (hname : IsName name) (he : e.Writable) :
    Unifies ("snippet ".toList ++ name ++ " = ".toList ++ Expr.render e)
      ("snippet ".toList ++ name ++ " = ".toList ++ Expr.render (e.mapStrings unifyNewlines)) :=
  (((unifies_self (by decide)).append (unifies_self (cr_notMem_of_isName hname))).append
    (unifies_self (by decide))).append (unifies_expr he)

namespace Config

variable {c : Config}

theorem unifiesEach_blocks (h : c.WellFormed) :
    UnifiesEach c.renderBlocks (c.mapStrings unifyNewlines).renderBlocks := by
  refine List.rel_append (List.rel_append ?_ ?_) ?_
  · have hsettings := unifiesEach_settings c.settings
    rw [Config.mapStrings]
    dsimp only
    generalize c.settings.renderLines = lines at hsettings ⊢
    generalize (c.settings.mapStrings unifyNewlines).renderLines = lines' at hsettings ⊢
    cases hsettings with
    | nil => exact .nil
    | cons hfirst hmore => exact .cons (Unifies.joinWith _ (by decide) (.cons hfirst hmore)) .nil
  · rw [Config.mapStrings, Table.mapValues, List.map_map]
    exact unifiesEach_map fun p hp => unifies_snippet (h.snippets p hp).1 (h.snippets p hp).2
  · rw [Config.mapStrings, List.map_map]
    exact unifiesEach_map fun m hm => unifies_menu (h.menus m hm)

/-- Unifying the line ends of what is written does the same as writing with unified line ends in
every string. -/
theorem unifyNewlines_render (h : c.WellFormed) :
    unifyNewlines c.render = (c.mapStrings unifyNewlines).render :=
  ((Unifies.joinWith _ (by decide) (unifiesEach_blocks h)).append
    (unifies_self (by decide))).unifyNewlines_eq

/-- Unifying line ends keeps a configuration exactly if no string of it has a CR. -/
theorem mapStrings_unifyNewlines_eq_self_iff :
    c.mapStrings unifyNewlines = c ↔ ∀ s ∈ c.strings, '\r' ∉ s := by
  constructor
  · intro h s hs
    rw [← h, strings_mapStrings] at hs
    obtain ⟨s', -, rfl⟩ := List.mem_map.1 hs
    exact cr_notMem_unifyNewlines s'
  · exact fun h => c.mapStrings_eq_self fun s hs => unifyNewlines_eq_self (h s hs)

/-- Up to order it is no different. -/
theorem sameAs_mapStrings_unifyNewlines_iff (h : c.WellFormed) :
    (c.mapStrings unifyNewlines).sameAs c = true ↔ ∀ s ∈ c.strings, '\r' ∉ s := by
  rw [sameAs_iff_alike h.mapStrings h]
  constructor
  · intro halike s hs
    have hs := halike.mem_strings h hs
    rw [strings_mapStrings] at hs
    obtain ⟨s', -, rfl⟩ := List.mem_map.1 hs
    exact cr_notMem_unifyNewlines s'
  · intro hnone
    rw [mapStrings_unifyNewlines_eq_self_iff.2 hnone]
    exact .refl c

/-! ### Files -/

/-- A well-formed configuration is read from the file that has been written of it, with unified line
ends in its strings. -/
theorem load_of_save {d saved : Disk} {path : Path} (h : c.WellFormed)
    (hsave : c.save d path = .ok saved) :
    (load saved path).result = .ok (c.mapStrings unifyNewlines) := by
  rw [load, Disk.read_of_write hsave]
  simp only [ofBytes_toBytes, unifyNewlines_render h, ofText_render_of_wellFormed h.mapStrings]

end Config

end KeyMenu
