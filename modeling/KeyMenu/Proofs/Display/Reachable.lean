import KeyMenu.Proofs.Display.Reordered
import KeyMenu.Proofs.Display.View
import Mathlib

/-!
# Entries that are drawn as reachable

Drawing a menu and matching typed text decide on their own which keys are still possible. At every
place that can be reached they agree, since no key of the menu begins what is pending there: the
keys that are not dimmed are the candidates of the match, and these are the keys that can still be
typed.

* `KeyMatch.candidates`, with `Menu.candidates_matchTyped`;
* `Place.Selects`, with `Place.selects_iff`: a text selects the entry whose key it completes;
* `View.column`, with `View.filter_style_fragments`: the keys of a drawn menu;
* `Place.Reachable.drawn`: the main theorem.
-/

namespace KeyMenu

/-! ### Candidates -/

/-- The keys that the typed text could still become. -/
def KeyMatch.candidates : KeyMatch → List Text
  | .pending candidates => candidates
  | .hit _ _ | .miss _ => []

/-- Where no key begins the text, the candidates are the keys that it begins. -/
theorem Menu.candidates_matchTyped {m : Menu} {typed : Text}
    (h : ∀ key ∈ m.keys, ¬ key <+: typed) :
    (m.matchTyped typed).candidates = m.keys.filter typed.isPrefixOf := by
  cases hmatch : m.matchTyped typed with
  | pending candidates => exact (matchTyped_eq_pending_iff.1 hmatch).2.2
  | miss shared =>
      obtain ⟨-, hnone, -⟩ := matchTyped_eq_miss_iff.1 hmatch
      refine (List.filter_eq_nil_iff.2 fun key hkey => ?_).symm
      rw [List.isPrefixOf_iff_prefix]
      exact hnone key hkey
  | hit key entry =>
      obtain ⟨hmem, hp⟩ := mem_of_matchTyped hmatch
      exact absurd hp (h key (mem_keys hmem))

namespace Place

variable {c : Config} {p q : Place} {m : Menu}

/-! ### Texts that select an entry -/

/-- Typing a text at a place selects an entry of the menu that stands there. A command is then
found under its key without leaving the place. A sub-menu is the first menu to be entered, by its
key, and the way goes on from it. -/
def Selects (c : Config) (p : Place) (more key : Text) : Entry → Prop
  | .command command =>
      ∃ remainder,
        (p.feed c more).reading = .selected ⟨command, key, p.menu, p.path, remainder⟩
  | .submenu name =>
      p.path ++ [name] <+: (p.feed c more).place.path ∧
        ∃ later, (p.feed c more).notes = .entering key name :: later

theorem Leads.isPrefix_path (hl : Leads c p q) : p.path <+: q.path := by
  induction hl with
  | refl p => exact List.prefix_rfl
  | step _ _ _ _ ih => exact (List.prefix_append _ _).trans ih

/-- Typing only prolongs the path. -/
theorem isPrefix_path_settle (h : c.WellFormed) (hm : c.menu? p.menu = some m) :
    p.path <+: (settle c p).place.path := by
  obtain ⟨q, hl, hh⟩ := exists_halts h hm
  rw [hh.stays.2]
  exact hl.isPrefix_path

/-- What the key of a command at the beginning of the pending text comes to. -/
theorem settle_of_command (h : c.WellFormed) (hm : c.menu? p.menu = some m) {key : Text}
    {command : Command} (he : (key, .command command) ∈ m.entries) (hk : key <+: p.pending) :
    (settle c p).reading =
      .selected ⟨command, key, p.menu, p.path, p.pending.drop key.length⟩ := by
  have htypeable := h.typeable (c.mem_of_menu? hm)
  have hne : p.pending ≠ [] := by
    intro hnil
    rw [hnil, List.prefix_nil] at hk
    exact htypeable.ne_nil key (Menu.mem_keys he) hk
  have hhit := (Menu.matchTyped_eq_hit_iff htypeable).2 ⟨he, hk⟩
  rw [(Halts.command hm hne hhit).settle.reading, c.name_of_menu? hm]

/-- The first menu that is entered is entered by a key that begins the pending text. -/
theorem isPrefix_of_entering (h : c.WellFormed) (hm : c.menu? p.menu = some m) {key name : Text}
    {later : List WalkNote} (hnotes : (settle c p).notes = .entering key name :: later) :
    key <+: p.pending := by
  by_cases hnil : p.pending = []
  · rw [settle_of_pending_nil c hnil] at hnotes
    cases hnotes
  · cases hmatch : m.matchTyped p.pending with
    | pending candidates | miss shared =>
        rw [settle, if_neg hnil, hm] at hnotes
        simp only [hmatch] at hnotes
        cases hnotes
    | hit key' entry =>
        obtain ⟨he, hk⟩ := Menu.mem_of_matchTyped hmatch
        cases entry with
        | command command =>
            rw [settle, if_neg hnil, hm] at hnotes
            simp only [hmatch] at hnotes
            cases hnotes
        | submenu name' =>
            rw [settle_of_submenu h hm he hk] at hnotes
            cases hnotes
            exact hk

/-- A way that does not prolong the path stays where it is. -/
theorem Leads.eq_of_path (hl : Leads c p q) (hpath : q.path = p.path) : q = p := by
  cases hl with
  | refl => rfl
  | @step _ _ _ key name _ _ _ hl =>
      have hlonger : p.path ++ [name] <+: q.path := hl.isPrefix_path
      rw [hpath] at hlonger
      have hlength := hlonger.length_le
      rw [List.length_append, List.length_singleton] at hlength
      omega

/-- A command is selected where typing halts, by a key that begins the pending text. -/
theorem Halts.of_selected {s : Selection} {place : Place} (hh : Halts c p (.selected s) place) :
    s.path = p.path ∧ s.key <+: p.pending := by
  cases hh with
  | command hm hne hmatch => exact ⟨rfl, (Menu.mem_of_matchTyped hmatch).2⟩

/-- A text selects an entry exactly if the key begins what is then pending. -/
theorem selects_iff (h : c.WellFormed) (hm : c.menu? p.menu = some m) {key : Text} {entry : Entry}
    (he : (key, entry) ∈ m.entries) (more : Text) :
    p.Selects c more key entry ↔ key <+: p.pending ++ more := by
  have htypeable := h.typeable (c.mem_of_menu? hm)
  cases entry with
  | command command =>
      refine ⟨?_, fun hk => ⟨_, settle_of_command h (p := p.extend more) hm he hk⟩⟩
      rintro ⟨remainder, hselected⟩
      obtain ⟨q, hl, hh⟩ := exists_halts_feed h hm more
      rw [hselected] at hh
      obtain ⟨hpath, hk⟩ := hh.of_selected
      -- the path has not become longer, so that no sub-menu has been entered
      rw [hl.eq_of_path hpath.symm] at hk
      exact hk
  | submenu name =>
      constructor
      · rintro ⟨-, later, hnotes⟩
        exact isPrefix_of_entering h (p := p.extend more) hm hnotes
      · intro hk
        have hsettle := settle_of_submenu h (p := p.extend more) hm he hk
        obtain ⟨target, htarget⟩ := h.soundGraph.submenus m (c.mem_of_menu? hm) key name he
        rw [Selects, feed_eq_settle, hsettle]
        exact ⟨isPrefix_path_settle h (p := (p.extend more).step key name) htarget, _, rfl⟩

end Place

/-! ### The keys of a drawn menu -/

namespace View

/-- A key as it is drawn, filled up to the width of the longest one. -/
def column (v : View) (key : Text) : Text :=
  key ++ List.replicate (v.keyWidth - key.length) ' '

/-- The fragments that show the keys, in order. -/
def keyFragments (v : View) : List Fragment :=
  v.fragments.filter fun f => f.style = .key ∨ f.style = .dimKey

/-- No fragment above the entries shows a key, none below them, and in the line of an entry one. -/
theorem keyFragments_eq (v : View) :
    v.keyFragments = v.entries.map fun e =>
      ⟨if e.isReachable v.pending then .key else .dimKey, v.column e.key⟩ := by
  have hline : List.filter (fun f => f.style = .key ∨ f.style = .dimKey) ∘
      VisibleEntry.fragments v.pending v.keyWidth =
        fun e => [⟨if e.isReachable v.pending then .key else .dimKey, v.column e.key⟩] := by
    funext e
    rw [Function.comp_apply]
    unfold VisibleEntry.fragments column
    cases e.isReachable v.pending <;> cases e.kind <;> rfl
  have hheading : v.heading.filter (fun f => f.style = .key ∨ f.style = .dimKey) = [] := rfl
  have hfooting : v.footing.filter (fun f => f.style = .key ∨ f.style = .dimKey) = [] := by
    unfold footing
    split <;> split <;> rfl
  rw [keyFragments, fragments_eq, List.filter_append, List.filter_append, hheading, hfooting,
    List.nil_append, List.append_nil, entryLines, List.filter_flatten, List.map_map, hline,
    ← List.flatMap_def]
  exact List.map_eq_flatMap.symm

/-- The keys that are not dimmed are those of the entries that can be reached. -/
theorem filter_style_fragments (v : View) :
    v.fragments.filter (·.style = .key) =
      (v.entries.filter (·.isReachable v.pending)).map fun e => ⟨.key, v.column e.key⟩ := by
  have hstyle : v.fragments.filter (·.style = .key) = v.keyFragments.filter (·.style = .key) := by
    rw [keyFragments, List.filter_filter]
    refine List.filter_congr fun f _ => ?_
    cases f.style <;> rfl
  rw [hstyle, keyFragments_eq]
  induction v.entries with
  | nil => rfl
  | cons e entries ih =>
      rw [List.map_cons, List.filter_cons, List.filter_cons, ih]
      cases e.isReachable v.pending <;> rfl

end View

/-- What the values have in common with the members is the same for the lists. -/
theorem map_eq_of_mapM {α β γ : Type} {f : α → Option β} {g : β → γ} {k : α → γ}
    (h : ∀ a b, f a = some b → g b = k a) {l : List α} {bs : List β} (hl : l.mapM f = some bs) :
    bs.map g = l.map k := by
  rw [mapM_eq_some_iff] at hl
  induction l generalizing bs with
  | nil => rw [List.map_eq_nil_iff.1 hl.symm, List.map_nil, List.map_nil]
  | cons a l ih =>
      cases bs with
      | nil => cases hl
      | cons b bs =>
          obtain ⟨hb, hbs⟩ := List.cons.inj hl
          rw [List.map_cons, List.map_cons, h a b hb, ih hbs]

/-- The entries that are shown stand for those of the menu, key by key. -/
theorem Config.keys_visibleEntries? {c : Config} {m : Menu} {entries : List VisibleEntry}
    (h : c.visibleEntries? m = some entries) : entries.map (·.key) = m.keys := by
  refine map_eq_of_mapM (fun q e he => ?_) h
  obtain ⟨key, entry⟩ := q
  cases entry with
  | command command =>
      cases he
      rfl
  | submenu name =>
      obtain ⟨title, -, rfl⟩ := Option.map_eq_some_iff.1 he
      rfl

namespace Place

variable {c : Config} {p : Place} {m : Menu}

/-- Everywhere the keys of the menu are drawn, and those that are not dimmed are the ones that the
pending text begins. -/
theorem keys_drawn {message : Option Text} {view : View} (hm : c.menu? p.menu = some m)
    (hview : p.view? c message = some view) :
    view.keyFragments = m.keys.map (fun key =>
      ⟨if p.pending.isPrefixOf key then .key else .dimKey, view.column key⟩) ∧
    view.fragments.filter (·.style = .key) =
      (m.keys.filter p.pending.isPrefixOf).map (⟨.key, view.column ·⟩) := by
  obtain ⟨m', breadcrumb, entries, hm', -, hentries, hview⟩ := view?_eq_some_iff.1 hview
  cases hm.symm.trans hm'
  have hpending : view.pending = p.pending := by rw [hview]
  have hkeys : view.entries.map (·.key) = m.keys := by
    rw [hview]
    exact Config.keys_visibleEntries? hentries
  rw [View.keyFragments_eq, View.filter_style_fragments, ← hkeys, hpending, List.filter_map,
    List.map_map, List.map_map]
  exact ⟨rfl, rfl⟩

/-- Keys of a menu are drawn alike only if they are the same, although blanks fill them up. -/
theorem column_injective (h : m.Typeable) (view : View) {key other : Text} (hkey : key ∈ m.keys)
    (hother : other ∈ m.keys) (heq : view.column key = view.column other) : key = other :=
  h.key_unique hkey hother (List.prefix_append key _)
    (show other <+: view.column key from heq ▸ List.prefix_append other _)

/-- What is pending matches nothing exactly if it begins no key. -/
theorem inError_iff (h : c.WellFormed) (hm : c.menu? p.menu = some m)
    (hkeys : ∀ key ∈ m.keys, ¬ key <+: p.pending) :
    p.InError c ↔ m.keys.filter p.pending.isPrefixOf = [] := by
  have hnone : m.keys.filter p.pending.isPrefixOf = [] ↔ ∀ key ∈ m.keys, ¬ p.pending <+: key := by
    simp [List.filter_eq_nil_iff]
  rw [hnone, InError, feed_eq_settle, extend_nil]
  constructor
  · rintro ⟨e, he⟩ key hkey hp
    have hhalts : Halts c p .waiting p := by
      by_cases hnil : p.pending = []
      · exact .nothing hnil
      · have hcandidate := List.mem_filter.2 ⟨hkey, List.isPrefixOf_iff_prefix.2 hp⟩
        exact .pending hm hnil
          (Menu.matchTyped_eq_pending_iff.2 ⟨hkeys, List.ne_nil_of_mem hcandidate, rfl⟩)
    rw [hhalts.settle.reading] at he
    cases he
  · intro hextends
    have hne : p.pending ≠ [] := by
      intro hnil
      obtain ⟨key, hkey⟩ := List.exists_mem_of_ne_nil m.keys fun hkeys =>
        (h.menus m (c.mem_of_menu? hm)).ne_nil (List.map_eq_nil_iff.1 hkeys)
      exact hextends key hkey (hnil ▸ List.nil_prefix)
    have hmiss := Menu.matchTyped_eq_miss_iff.2 ⟨hkeys, hextends, rfl⟩
    exact ⟨_, (Halts.miss hm hne hmiss).settle.reading⟩

/-- Where no key begins what is pending, an entry can still be selected exactly if the pending text
begins its key. -/
theorem exists_selects_iff (h : c.WellFormed) (hm : c.menu? p.menu = some m)
    (hkeys : ∀ key ∈ m.keys, ¬ key <+: p.pending) {key : Text} {entry : Entry}
    (he : (key, entry) ∈ m.entries) :
    (∃ more, p.Selects c more key entry) ↔ p.pending <+: key := by
  simp only [selects_iff h hm he]
  constructor
  · rintro ⟨more, hk⟩
    rcases List.prefix_or_prefix_of_prefix hk (List.prefix_append p.pending more) with hp | hp
    · exact absurd hp (hkeys key (Menu.mem_keys he))
    · exact hp
  · rintro ⟨more, rfl⟩
    exact ⟨more, List.prefix_rfl⟩

/-- **The keys that are drawn as reachable are the candidates of the match.** They are drawn in the
order of the menu; with nothing pending they are all the keys, and there are none exactly if what
is pending matches nothing. A key is drawn as reachable exactly if some further text selects its
entry. -/
theorem Reachable.keys_drawn_iff {text : Text} (h : Config.ofText text = .ok c)
    (hp : p.Reachable c) (message : Option Text) :
    ∃ m view, c.menu? p.menu = some m ∧ p.view? c message = some view ∧
      view.keyFragments = m.keys.map (fun key =>
        ⟨if key ∈ (m.matchTyped p.pending).candidates then .key else .dimKey,
          view.column key⟩) ∧
      view.fragments.filter (·.style = .key) =
        (m.matchTyped p.pending).candidates.map (⟨.key, view.column ·⟩) ∧
      (p.pending = [] → (m.matchTyped p.pending).candidates = m.keys) ∧
      (p.InError c ↔ (m.matchTyped p.pending).candidates = []) ∧
      ∀ key entry, (key, entry) ∈ m.entries →
        (⟨.key, view.column key⟩ ∈ view.fragments ↔ ∃ more, p.Selects c more key entry) := by
  have hwell := Config.wellFormed_of_ofText h
  obtain ⟨m, hm, hkeys⟩ := hp.settled hwell
  obtain ⟨view, hview⟩ := hp.exists_view hwell message
  obtain ⟨hall, hreachable⟩ := keys_drawn hm hview
  have htypeable := hwell.typeable (c.mem_of_menu? hm)
  refine ⟨m, view, hm, hview, ?_⟩
  rw [Menu.candidates_matchTyped hkeys]
  refine ⟨?_, hreachable, ?_, inError_iff hwell hm hkeys, fun key entry he => ?_⟩
  · rw [hall]
    refine List.map_congr_left fun key hkey => ?_
    simp [List.mem_filter, hkey]
  · intro hnil
    simp [hnil]
  · have hkey := Menu.mem_keys he
    rw [exists_selects_iff hwell hm hkeys he, ← List.isPrefixOf_iff_prefix]
    have hdrawn : ⟨.key, view.column key⟩ ∈ view.fragments ↔
        ⟨.key, view.column key⟩ ∈ view.fragments.filter (·.style = .key) := by
      simp [List.mem_filter]
    rw [hdrawn, hreachable, List.mem_map]
    constructor
    · rintro ⟨other, hother, heq⟩
      obtain ⟨hmem, hpending⟩ := List.mem_filter.1 hother
      rw [Fragment.mk.injEq] at heq
      rw [← column_injective htypeable view hmem hkey heq.2]
      exact hpending
    · exact fun hpending => ⟨key, List.mem_filter.2 ⟨hkey, hpending⟩, rfl⟩

/-- Behind a circle of menus, of three keys the two that begin with what is pending are drawn as
reachable. -/
theorem keys_drawn_iff_circle :
    ∃ c m view, Config.ofText ("menu root \x7b g: git \x7d ".toList ++
        "menu git \x7b sta: \"s\" sho: \"t\" p: root \x7d".toList) = .ok c ∧
      (start.feed c "gpgs".toList).place.Reachable c ∧
      c.menu? (start.feed c "gpgs".toList).place.menu = some m ∧
      (start.feed c "gpgs".toList).place.view? c none = some view ∧
      view.keyFragments = m.keys.map (fun key =>
        ⟨if key ∈ (m.matchTyped (start.feed c "gpgs".toList).place.pending).candidates then .key
          else .dimKey, view.column key⟩) ∧
      view.fragments.filter (·.style = .key) =
        (m.matchTyped (start.feed c "gpgs".toList).place.pending).candidates.map
          (⟨.key, view.column ·⟩) ∧
      ((start.feed c "gpgs".toList).place.pending = [] →
        (m.matchTyped (start.feed c "gpgs".toList).place.pending).candidates = m.keys) ∧
      ((start.feed c "gpgs".toList).place.InError c ↔
        (m.matchTyped (start.feed c "gpgs".toList).place.pending).candidates = []) ∧
      (∀ key entry, (key, entry) ∈ m.entries →
        (⟨.key, view.column key⟩ ∈ view.fragments ↔
          ∃ more, (start.feed c "gpgs".toList).place.Selects c more key entry)) ∧
      (start.feed c "gpgs".toList).place =
        ⟨"git".toList, "s".toList, ["git".toList, "root".toList, "git".toList], 3⟩ ∧
      view.keyFragments =
        [⟨.key, "sta".toList⟩, ⟨.key, "sho".toList⟩, ⟨.dimKey, "p  ".toList⟩] := by
  obtain ⟨c, hc, hplace, hdrawn⟩ : ∃ c, Config.ofText ("menu root \x7b g: git \x7d ".toList ++
        "menu git \x7b sta: \"s\" sho: \"t\" p: root \x7d".toList) = .ok c ∧
      (start.feed c "gpgs".toList).place =
        ⟨"git".toList, "s".toList, ["git".toList, "root".toList, "git".toList], 3⟩ ∧
      ((start.feed c "gpgs".toList).place.view? c none).map View.keyFragments =
        some [⟨.key, "sta".toList⟩, ⟨.key, "sho".toList⟩, ⟨.dimKey, "p  ".toList⟩] :=
    ⟨⟨⟨none, true⟩, [], [⟨"root".toList, none, [("g".toList, .submenu "git".toList)]⟩,
      ⟨"git".toList, none, [("sta".toList, .command ⟨[.literal "s".toList], none, false, none⟩),
        ("sho".toList, .command ⟨[.literal "t".toList], none, false, none⟩),
        ("p".toList, .submenu "root".toList)]⟩]⟩, by cbv, by cbv, by cbv⟩
  have hp : (start.feed c "gpgs".toList).place.Reachable c := Reachable.start.feed _
  obtain ⟨m, view, hm, hview, hall, hreachable, hempty, herror, hiff⟩ := hp.keys_drawn_iff hc none
  rw [hview] at hdrawn
  exact ⟨c, m, view, hc, hp, hm, hview, hall, hreachable, hempty, herror, hiff, hplace,
    Option.some.inj hdrawn⟩

end Place

end KeyMenu
