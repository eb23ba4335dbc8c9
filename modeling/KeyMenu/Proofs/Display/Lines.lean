import KeyMenu.Proofs.Display.Reachable
import KeyMenu.Proofs.Text.Line

/-!
# The lines of a drawn menu

Keys, names and texts of commands and the titles of sub-menus cannot break the lines of a drawn
menu: whatever counts as a line break, each entry takes one line, and its label begins in the same
column as all others. The titles above the entries are drawn as they are, so that they take one line
exactly if none of them contains a line break.

* `LineBreaks`: what may count as a line break;
* `View.entryLine`, `View.screen_eq`: a drawn menu as text;
* `View.splitOnP_screen`: the lines of a drawn menu;
* `Place.Reachable.screen_lines`: the main theorem.
-/

namespace KeyMenu

open List

/-- What may count as a line break: LF, and other code points that end a line somewhere. -/
structure LineBreaks (isBreak : Char → Bool) : Prop where
  newline : isBreak '\n' = true
  among : ∀ ch, isBreak ch = true → isLineBreak ch = true

/-- Line breaks are white space. -/
theorem isBlank_of_isLineBreak {ch : Char} (h : isLineBreak ch = true) : isBlank ch = true := by
  simp only [isLineBreak, isBlank, Bool.or_eq_true, Bool.and_eq_true, decide_eq_true_eq,
    beq_iff_eq] at h ⊢
  omega

section Cutting

variable {isBreak : Char → Bool} {t : Text}

theorem LineBreaks.eq_false (h : LineBreaks isBreak) {ch : Char} (hch : isLineBreak ch = false) :
    isBreak ch = false := by
  rw [← Bool.not_eq_true]
  intro hbreak
  rw [h.among ch hbreak] at hch
  cases hch

/-- A text is one line exactly if there is no break in it. -/
theorem length_splitOnP_eq_one_iff :
    (t.splitOnP isBreak).length = 1 ↔ ∀ ch ∈ t, isBreak ch = false := by
  constructor
  · intro h ch hch
    by_contra hbreak
    obtain ⟨before, after, rfl⟩ := append_of_mem hch
    rw [splitOnP_append_cons _ _ (by simpa using hbreak), length_append] at h
    have hbefore := length_pos_iff.2 (splitOnP_ne_nil isBreak before)
    have hafter := length_pos_iff.2 (splitOnP_ne_nil isBreak after)
    omega
  · intro h
    rw [splitOnP_eq_singleton h, length_singleton]

/-- Lines without breaks, each with an LF behind it, are cut there and nowhere else. -/
theorem splitOnP_flatMap_append (h : LineBreaks isBreak) {lines : List Text}
    (hlines : ∀ line ∈ lines, ∀ ch ∈ line, isBreak ch = false) (rest : Text) :
    (lines.flatMap (· ++ ['\n']) ++ rest).splitOnP isBreak = lines ++ rest.splitOnP isBreak := by
  induction lines with
  | nil => rfl
  | cons line lines ih =>
      obtain ⟨hline, hlines⟩ := forall_mem_cons.1 hlines
      rw [flatMap_cons, append_assoc, append_assoc, singleton_append,
        splitOnP_append_cons_of_forall_mem hline _ h.newline, ih hlines, cons_append]

/-- Joined texts are without breaks exactly if all of them are. -/
theorem forall_mem_joinWith {P : Char → Prop} {sep : Text} (hsep : ∀ ch ∈ sep, P ch)
    {parts : List Text} :
    (∀ ch ∈ Text.joinWith sep parts, P ch) ↔ ∀ part ∈ parts, ∀ ch ∈ part, P ch := by
  induction parts with
  | nil => simp
  | cons part parts ih =>
      by_cases hparts : parts = []
      · simp [hparts]
      · rw [Text.joinWith_cons _ _ hparts, forall_mem_append, forall_mem_append, ih,
          forall_mem_cons, and_iff_left hsep]

end Cutting

/-! ### Labels -/

/-- A label is drawn without line breaks. -/
theorem VisibleEntry.isLineBreak_of_mem_lineLabel (e : VisibleEntry) :
    ∀ ch ∈ e.lineLabel, isLineBreak ch = false := by
  have hmark : ∀ ch ∈ " ...".toList, isLineBreak ch = false := by
    simp [isLineBreak]
  obtain ⟨key, label, kind⟩ := e
  have hcommand : ∀ ch ∈ (mk key label .command).lineLabel, isLineBreak ch = false := by
    rw [lineLabel]
    cases hlines : Text.lines label with
    | nil => exact forall_mem_nil _
    | cons line more =>
        have hline : ∀ ch ∈ line, isLineBreak ch = false :=
          Text.unbroken_of_mem_lines (hlines ▸ mem_cons_self)
        cases more with
        | nil => exact hline
        | cons second more => exact forall_mem_append.2 ⟨hline, hmark⟩
  -- a sub-menu has the label of a command with a slash behind it
  cases kind with
  | menu => exact forall_mem_append.2 ⟨hcommand, forall_mem_singleton.2 rfl⟩
  | command => exact hcommand

/-! ### A drawn menu as text -/

namespace View

variable {v : View} {isBreak : Char → Bool}

/-- What stands in front of the label of an entry. -/
def lineFront (v : View) (e : VisibleEntry) : Text := ' ' :: ' ' :: v.column e.key ++ [' ', ' ']

/-- The line of an entry. -/
def entryLine (v : View) (e : VisibleEntry) : Text := v.lineFront e ++ e.lineLabel

/-- All keys are filled up to the width of the longest one. -/
theorem length_column {e : VisibleEntry} (he : e ∈ v.entries) :
    (v.column e.key).length = v.keyWidth := by
  have hle : e.key.length ≤ v.keyWidth :=
    le_foldl_max_iff.2 (.inr ⟨_, mem_map_of_mem he, Nat.le_refl _⟩)
  rw [column, length_append, length_replicate]
  omega

theorem length_lineFront {e : VisibleEntry} (he : e ∈ v.entries) :
    (v.lineFront e).length = v.keyWidth + 4 := by
  simp [lineFront, length_column he]

/-- The titles, the lines of the entries, the message if there is one, and what is pending. -/
theorem screen_eq (v : View) :
    v.screen = v.breadcrumb ++ '\n' :: ((v.entries.map v.entryLine).flatMap (· ++ ['\n']) ++
      ((v.message.filter (!·.isEmpty)).toList.flatMap (· ++ ['\n']) ++ v.pending)) := by
  have hentries : v.entryLines.flatten.flatMap (·.text) =
      (v.entries.map v.entryLine).flatMap (· ++ ['\n']) := by
    rw [entryLines, ← flatMap_def, flatMap_assoc, flatMap_map]
    refine flatMap_congr fun e _ => ?_
    simp [VisibleEntry.fragments, entryLine, lineFront, column]
  have hfooting : v.footing.flatMap (·.text) =
      (v.message.filter (!·.isEmpty)).toList.flatMap (· ++ ['\n']) ++ v.pending := by
    rw [footing, flatMap_append]
    congr 1
    · rcases v.message with _ | _ | ⟨ch, text⟩ <;> simp [Option.filter]
    · cases v.pending <;> simp
  rw [screen, fragments_eq, flatMap_append, flatMap_append, hentries, hfooting]
  simp [heading]

/-- The line of an entry is without breaks if its key is. -/
theorem isBreak_of_mem_entryLine (h : LineBreaks isBreak) {e : VisibleEntry}
    (hkey : ∀ ch ∈ e.key, isBlank ch = false) : ∀ ch ∈ v.entryLine e, isBreak ch = false := by
  have hspace : isBreak ' ' = false := h.eq_false (by decide)
  have hcolumn : ∀ ch ∈ v.column e.key, isBreak ch = false := by
    refine forall_mem_append.2 ⟨fun ch hch => h.eq_false ?_, fun ch hch => ?_⟩
    · have hblank := hkey ch hch
      rw [← Bool.not_eq_true] at hblank ⊢
      exact mt isBlank_of_isLineBreak hblank
    · rw [eq_of_mem_replicate hch, hspace]
  have hlabel : ∀ ch ∈ e.lineLabel, isBreak ch = false :=
    fun ch hch => h.eq_false (e.isLineBreak_of_mem_lineLabel ch hch)
  simpa [entryLine, lineFront, hspace, or_imp, forall_and] using ⟨hcolumn, hlabel⟩

/-- **However lines are told apart, each entry takes one of them.** The titles are cut at their own
breaks, and so are the message and what is pending. -/
theorem splitOnP_screen (h : LineBreaks isBreak)
    (hkeys : ∀ e ∈ v.entries, ∀ ch ∈ e.key, isBlank ch = false) :
    v.screen.splitOnP isBreak =
      v.breadcrumb.splitOnP isBreak ++ (v.entries.map v.entryLine ++
        ((v.message.filter (!·.isEmpty)).toList.flatMap (·.splitOnP isBreak) ++
          v.pending.splitOnP isBreak)) := by
  have hentries : ∀ line ∈ v.entries.map v.entryLine, ∀ ch ∈ line, isBreak ch = false :=
    forall_mem_map.2 fun e he => isBreak_of_mem_entryLine h (hkeys e he)
  have hfooting : ((v.message.filter (!·.isEmpty)).toList.flatMap (· ++ ['\n']) ++
      v.pending).splitOnP isBreak =
        (v.message.filter (!·.isEmpty)).toList.flatMap (·.splitOnP isBreak) ++
          v.pending.splitOnP isBreak := by
    cases v.message.filter (!·.isEmpty) with
    | none => rfl
    | some text => simp [splitOnP_append_cons, h.newline]
  rw [screen_eq, splitOnP_append_cons _ _ h.newline, splitOnP_flatMap_append h hentries, hfooting]

end View

namespace Place

variable {c : Config} {p : Place}

/-- No key that is shown contains white space. -/
theorem isBlank_of_mem_key (h : c.WellFormed) {m : Menu} (hm : m ∈ c.menus)
    {entries : List VisibleEntry} (hentries : c.visibleEntries? m = some entries) :
    ∀ e ∈ entries, ∀ ch ∈ e.key, isBlank ch = false := by
  intro e he ch hch
  have hkey : e.key ∈ m.keys := by
    rw [← Config.keys_visibleEntries? hentries]
    exact mem_map_of_mem he
  obtain ⟨q, hq, heq⟩ := mem_map.1 hkey
  have hchar := ((h.menus m hm).entries q hq).1.2.1 ch (heq ▸ hch)
  simp only [isKeyChar, Bool.and_eq_true, Bool.not_eq_eq_eq_not, Bool.not_true] at hchar
  exact hchar.2

/-- **Every entry is drawn in one line, and the titles in one if they have no line breaks.** A drawn
menu begins with the titles on the way, joined as they are. One line for each entry of the menu
follows, in the order of the menu, with all labels beginning in the same column, whatever keys,
titles, names and texts of commands contain. Then come the message, if there is one, and what is
pending. The titles take one line exactly if none of them contains a line break. -/
theorem Reachable.screen_lines {text : Text} (h : Config.ofText text = .ok c)
    (hp : p.Reachable c) (message : Option Text) :
    ∃ m view titles, c.menu? p.menu = some m ∧ p.view? c message = some view ∧
      (rootName :: p.path).mapM c.title? = some titles ∧
      (m.entries.map fun (key, entry) => c.visibleEntry? key entry) = view.entries.map some ∧
      (∀ e ∈ view.entries, view.entryLine e = view.lineFront e ++ e.lineLabel ∧
        (view.lineFront e).length = view.keyWidth + 4) ∧
      ∀ isBreak, LineBreaks isBreak →
        view.screen.splitOnP isBreak =
          (Text.joinWith " > ".toList titles).splitOnP isBreak ++
            (view.entries.map view.entryLine ++
              ((message.filter (!·.isEmpty)).toList.flatMap (·.splitOnP isBreak) ++
                p.pending.splitOnP isBreak)) ∧
        (((Text.joinWith " > ".toList titles).splitOnP isBreak).length = 1 ↔
          ∀ title ∈ titles, ∀ ch ∈ title, isBreak ch = false) := by
  have hwell := Config.wellFormed_of_ofText h
  obtain ⟨view, hview⟩ := hp.exists_view hwell message
  obtain ⟨m, breadcrumb, entries, hm, hbreadcrumb, hentries, rfl⟩ := view?_eq_some_iff.1 hview
  obtain ⟨titles, htitles, rfl⟩ := Option.map_eq_some_iff.1 hbreadcrumb
  refine ⟨m, _, titles, hm, hview, htitles, mapM_eq_some_iff.1 hentries,
    fun e he => ⟨rfl, View.length_lineFront he⟩, fun isBreak hbreak => ⟨?_, ?_⟩⟩
  · exact View.splitOnP_screen hbreak (isBlank_of_mem_key hwell (c.mem_of_menu? hm) hentries)
  · have hsep : ∀ ch ∈ " > ".toList, isBreak ch = false := by
      have hmark : ∀ ch ∈ " > ".toList, isLineBreak ch = false := by
        simp [isLineBreak]
      exact fun ch hch => hbreak.eq_false (hmark ch hch)
    rw [length_splitOnP_eq_one_iff, forall_mem_joinWith hsep]

/-- The title of a sub-menu and the name of a command, each with a break of its own kind, behind
what is pending; all breaks count. -/
theorem screen_lines_labels :
    ∃ c m view titles, Config.ofText
        ("menu root \x7b g: git sta: \"a\u2028b\" - \"s\" \x7d ".toList ++
          "menu \"Git\nhub\" git \x7b p: root \x7d".toList) = .ok c ∧
      (start.feed c "gps".toList).place.Reachable c ∧ LineBreaks isLineBreak ∧
      c.menu? (start.feed c "gps".toList).place.menu = some m ∧
      (start.feed c "gps".toList).place.view? c none = some view ∧
      (rootName :: (start.feed c "gps".toList).place.path).mapM c.title? = some titles ∧
      (m.entries.map fun (key, entry) => c.visibleEntry? key entry) = view.entries.map some ∧
      (∀ e ∈ view.entries, view.entryLine e = view.lineFront e ++ e.lineLabel ∧
        (view.lineFront e).length = view.keyWidth + 4) ∧
      view.screen.splitOnP isLineBreak =
        (Text.joinWith " > ".toList titles).splitOnP isLineBreak ++
          (view.entries.map view.entryLine ++ ["s".toList]) ∧
      (((Text.joinWith " > ".toList titles).splitOnP isLineBreak).length = 1 ↔
        ∀ title ∈ titles, ∀ ch ∈ title, isLineBreak ch = false) ∧
      view.entries.map view.entryLine = ["  g    Git .../".toList, "  sta  a ...".toList] := by
  obtain ⟨c, hc, hpending, hdrawn⟩ : ∃ c, Config.ofText
        ("menu root \x7b g: git sta: \"a\u2028b\" - \"s\" \x7d ".toList ++
          "menu \"Git\nhub\" git \x7b p: root \x7d".toList) = .ok c ∧
      (start.feed c "gps".toList).place.pending = "s".toList ∧
      ((start.feed c "gps".toList).place.view? c none).map
        (fun view => view.entries.map view.entryLine) =
          some ["  g    Git .../".toList, "  sta  a ...".toList] :=
    ⟨⟨⟨none, true⟩, [], [⟨"root".toList, none, [("g".toList, .submenu "git".toList),
        ("sta".toList, .command ⟨[.literal "s".toList], some "a\u2028b".toList, false, none⟩)]⟩,
      ⟨"git".toList, some "Git\nhub".toList, [("p".toList, .submenu "root".toList)]⟩]⟩,
      by cbv, by cbv, by cbv⟩
  have hp : (start.feed c "gps".toList).place.Reachable c := Reachable.start.feed _
  have hbreaks : LineBreaks isLineBreak := ⟨rfl, fun _ h => h⟩
  obtain ⟨m, view, titles, hm, hview, htitles, hentries, hfront, hlines⟩ :=
    hp.screen_lines hc none
  obtain ⟨hcut, hone⟩ := hlines isLineBreak hbreaks
  rw [hview] at hdrawn
  rw [hpending] at hcut
  exact ⟨c, m, view, titles, hc, hp, hbreaks, hm, hview, htitles, hentries, hfront, hcut, hone,
    Option.some.inj hdrawn⟩

/-- A title with a line break takes two lines above the entries, while the label of the entry that
leads to the menu shows the same title in one line. -/
theorem screen_broken_title :
    ∃ c view, Config.ofText "menu \"a\nb\" root \x7b g: root \x7d".toList = .ok c ∧
      start.Reachable c ∧ start.view? c none = some view ∧ view.entries.length = 1 ∧
      view.message = none ∧ view.pending = [] ∧
      Text.lines view.screen = ["a".toList, "b".toList, "  g  a .../".toList] ∧
      (Text.lines view.screen).length ≠ 1 + view.entries.length :=
  ⟨⟨⟨none, true⟩, [], [⟨"root".toList, some "a\nb".toList,
      [("g".toList, .submenu "root".toList)]⟩]⟩,
    ⟨"a\nb".toList, "a\nb".toList, [⟨"g".toList, "a\nb".toList, .menu⟩], [], none⟩,
    by cbv, .start, by cbv, rfl, rfl, rfl, by cbv, by cbv⟩

end Place

end KeyMenu
