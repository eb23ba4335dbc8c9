import KeyMenu.Proofs.Navigation.Match
import Mathlib.Order.Bounds.Basic

/-!
# Three ways for typed text to stand to keys

In a menu whose keys can all be typed, a text either begins with one of them, or could still become
some of them, or neither. Which of the three it is, and what is said about it, depends on the keys
alone and not on the order in which they are looked at. Only the second can change when more is
typed.

* `sharedLengths`, `isGreatest_longestShared`: the longest part that a text shares with a key;
* `KeyMatch.Describes`: what a match says of a text and the keys;
* `KeyMatch.Describes.eq`, `Menu.Typeable.describes_matchTyped`: one match does so, and it is the
  one that is found;
* `Menu.matchTyped_trichotomy`: the main theorem.
-/

namespace KeyMenu

/-! ### Parts that a text shares with keys -/

/-- The lengths of all texts with which both the typed text and a key begin. -/
def sharedLengths (keys : List Text) (typed : Text) : Set Nat :=
  {n | ∃ key ∈ keys, ∃ part, part <+: key ∧ part <+: typed ∧ part.length = n}

theorem isGreatest_longestShared {keys : List Text} {typed : Text} (hne : keys ≠ [])
    (h : ∀ key ∈ keys, ¬ typed <+: key) :
    IsGreatest (sharedLengths keys typed) (longestShared keys typed) := by
  have hle := Nat.le_of_lt (longestShared_lt_length hne h)
  constructor
  · obtain ⟨key, hkey, hp⟩ := (le_longestShared_iff hne hle).1 (Nat.le_refl _)
    exact ⟨key, hkey, _, hp, List.take_prefix _ _, List.length_take_of_le hle⟩
  · -- a shared part is the beginning of the typed text that has its length
    rintro n ⟨key, hkey, part, hp, ht, rfl⟩
    refine (le_longestShared_iff hne ht.length_le).2 ⟨key, hkey, ?_⟩
    rwa [← List.prefix_iff_eq_take.1 ht]

/-! ### What a match says -/

/-- A match describes how the typed text stands to the keys of a menu. A key is hit exactly if one
begins the text, and it is the only one. Keys are pending exactly if the text is a proper beginning
of some, and the candidates are these in the order of the menu. Otherwise the text misses; the
longest part that it shares with a key is not the whole text. -/
structure KeyMatch.Describes (found : KeyMatch) (m : Menu) (typed : Text) : Prop where
  hit_iff : (∃ key entry, found = .hit key entry) ↔ ∃ key ∈ m.keys, key <+: typed
  pending_iff : (∃ candidates, found = .pending candidates) ↔
    ∃ key ∈ m.keys, typed <+: key ∧ typed ≠ key
  miss_iff : (∃ shared, found = .miss shared) ↔
    (¬ ∃ key ∈ m.keys, key <+: typed) ∧ ¬ ∃ key ∈ m.keys, typed <+: key ∧ typed ≠ key
  hit : ∀ key entry, found = .hit key entry →
    (key, entry) ∈ m.entries ∧ ∀ other ∈ m.keys, other <+: typed ↔ other = key
  pending : ∀ candidates, found = .pending candidates →
    candidates = m.keys.filter fun key => typed <+: key ∧ typed ≠ key
  miss : ∀ shared, found = .miss shared →
    IsGreatest (sharedLengths m.keys typed) shared ∧ shared < typed.length

variable {m : Menu} {typed : Text}

/-- The description leaves no choice. -/
theorem KeyMatch.Describes.eq {a b : KeyMatch} (h : m.Typeable) (ha : a.Describes m typed)
    (hb : b.Describes m typed) : a = b := by
  -- the equivalences make `b` a match of the same kind as `a`
  cases a with
  | hit key entry =>
      obtain ⟨key', entry', rfl⟩ := hb.hit_iff.2 (ha.hit_iff.1 ⟨key, entry, rfl⟩)
      obtain ⟨hmem, honly⟩ := ha.hit key entry rfl
      obtain ⟨hmem', honly'⟩ := hb.hit key' entry' rfl
      have hbegins : key <+: typed := (honly key (Menu.mem_keys hmem)).2 rfl
      obtain rfl : key = key' := (honly' key (Menu.mem_keys hmem)).1 hbegins
      rw [h.entry_unique hmem hmem']
  | pending candidates =>
      obtain ⟨others, rfl⟩ := hb.pending_iff.2 (ha.pending_iff.1 ⟨candidates, rfl⟩)
      rw [ha.pending candidates rfl, hb.pending others rfl]
  | miss shared =>
      obtain ⟨other, rfl⟩ := hb.miss_iff.2 (ha.miss_iff.1 ⟨shared, rfl⟩)
      rw [(ha.miss shared rfl).1.unique (hb.miss other rfl).1]

namespace Menu

theorem exists_mem_entries {key : Text} (h : key ∈ m.keys) : ∃ entry, (key, entry) ∈ m.entries := by
  obtain ⟨⟨_, entry⟩, hmem, rfl⟩ := List.mem_map.1 h
  exact ⟨entry, hmem⟩

/-- No key begins a text that is a proper beginning of a key. -/
theorem Typeable.not_isPrefix_of_begins (h : m.Typeable) {key : Text} (hkey : key ∈ m.keys)
    (hp : typed <+: key) (hne : typed ≠ key) : ∀ other ∈ m.keys, ¬ other <+: typed := by
  intro other hother hbegins
  obtain rfl : other = key := h.eq_of_isPrefix other hother key hkey (hbegins.trans hp)
  exact hne (hp.eq_of_length_le hbegins.length_le)

/-- Where no key begins a text, the text begins keys properly or not at all. -/
theorem begins_iff (hkeys : ∀ key ∈ m.keys, ¬ key <+: typed) {key : Text} (hkey : key ∈ m.keys) :
    typed <+: key ∧ typed ≠ key ↔ typed <+: key := by
  refine ⟨And.left, fun hp => ⟨hp, ?_⟩⟩
  rintro rfl
  exact hkeys _ hkey List.prefix_rfl

/-! ### What is found -/

theorem Typeable.exists_hit_iff (h : m.Typeable) :
    (∃ key entry, m.matchTyped typed = .hit key entry) ↔ ∃ key ∈ m.keys, key <+: typed := by
  constructor
  · rintro ⟨key, entry, hhit⟩
    obtain ⟨hmem, hp⟩ := mem_of_matchTyped hhit
    exact ⟨key, mem_keys hmem, hp⟩
  · rintro ⟨key, hkey, hp⟩
    obtain ⟨entry, hmem⟩ := exists_mem_entries hkey
    exact ⟨key, entry, (matchTyped_eq_hit_iff h).2 ⟨hmem, hp⟩⟩

theorem Typeable.exists_pending_iff (h : m.Typeable) :
    (∃ candidates, m.matchTyped typed = .pending candidates) ↔
      ∃ key ∈ m.keys, typed <+: key ∧ typed ≠ key := by
  constructor
  · rintro ⟨candidates, hpending⟩
    obtain ⟨hkeys, hne, rfl⟩ := matchTyped_eq_pending_iff.1 hpending
    obtain ⟨key, hcandidate⟩ := List.exists_mem_of_ne_nil _ hne
    obtain ⟨hkey, hp⟩ := List.mem_filter.1 hcandidate
    exact ⟨key, hkey, (begins_iff hkeys hkey).2 (List.isPrefixOf_iff_prefix.1 hp)⟩
  · rintro ⟨key, hkey, hp, hne⟩
    have hkeys := h.not_isPrefix_of_begins hkey hp hne
    have hcandidate := List.mem_filter.2 ⟨hkey, List.isPrefixOf_iff_prefix.2 hp⟩
    exact ⟨_, matchTyped_eq_pending_iff.2 ⟨hkeys, List.ne_nil_of_mem hcandidate, rfl⟩⟩

theorem exists_miss_iff :
    (∃ shared, m.matchTyped typed = .miss shared) ↔
      (¬ ∃ key ∈ m.keys, key <+: typed) ∧ ¬ ∃ key ∈ m.keys, typed <+: key ∧ typed ≠ key := by
  constructor
  · rintro ⟨shared, hmiss⟩
    obtain ⟨hkeys, htyped, -⟩ := matchTyped_eq_miss_iff.1 hmiss
    exact ⟨fun ⟨key, hkey, hp⟩ => hkeys key hkey hp,
      fun ⟨key, hkey, hp, _⟩ => htyped key hkey hp⟩
  · rintro ⟨hkeys, htyped⟩
    have hkeys' : ∀ key ∈ m.keys, ¬ key <+: typed := fun key hkey hp => hkeys ⟨key, hkey, hp⟩
    exact ⟨_, matchTyped_eq_miss_iff.2 ⟨hkeys',
      fun key hkey hp => htyped ⟨key, hkey, (begins_iff hkeys' hkey).2 hp⟩, rfl⟩⟩

/-- The match that is found describes how the text stands to the keys. -/
theorem Typeable.describes_matchTyped (h : m.Typeable) (hne : m.entries ≠ []) (typed : Text) :
    (m.matchTyped typed).Describes m typed where
  hit_iff := h.exists_hit_iff
  pending_iff := h.exists_pending_iff
  miss_iff := exists_miss_iff
  hit key entry hhit := by
    obtain ⟨hmem, hp⟩ := mem_of_matchTyped hhit
    refine ⟨hmem, fun other hother => ⟨fun hp' => ?_, ?_⟩⟩
    · exact h.key_unique hother (mem_keys hmem) hp' hp
    · rintro rfl
      exact hp
  pending candidates hpending := by
    obtain ⟨hkeys, -, rfl⟩ := matchTyped_eq_pending_iff.1 hpending
    refine List.filter_congr fun key hkey => ?_
    rw [Bool.eq_iff_iff, decide_eq_true_iff, begins_iff hkeys hkey, List.isPrefixOf_iff_prefix]
  miss shared hmiss := by
    obtain ⟨-, htyped, rfl⟩ := matchTyped_eq_miss_iff.1 hmiss
    have hkeys : m.keys ≠ [] := fun hnil => hne (List.map_eq_nil_iff.1 hnil)
    exact ⟨isGreatest_longestShared hkeys htyped, longestShared_lt_length hkeys htyped⟩

/-- **Typed text stands to the keys of a menu in one of three ways.** In every menu with entries
whose keys can all be typed, the match of a text is the one that describes it, and no other match
does. Once a key begins the text, the same one begins all that continues it; once no key can begin
it, none begins what continues it, and the part that is shared stays as long. -/
theorem matchTyped_trichotomy (h : m.Typeable) (hne : m.entries ≠ []) (typed : Text) :
    (∀ found, m.matchTyped typed = found ↔ found.Describes m typed) ∧
      ∀ longer, typed <+: longer →
        (∀ key entry, m.matchTyped typed = .hit key entry →
          m.matchTyped longer = .hit key entry) ∧
        ∀ shared, m.matchTyped typed = .miss shared → m.matchTyped longer = .miss shared := by
  have hdescribes := h.describes_matchTyped hne typed
  refine ⟨fun found => ⟨?_, fun hfound => hdescribes.eq h hfound⟩, ?_⟩
  · rintro rfl
    exact hdescribes
  · rintro _ ⟨more, rfl⟩
    exact ⟨fun key entry hhit => matchTyped_append_of_hit h hhit more,
      fun shared hmiss => matchTyped_append_of_miss hmiss more⟩

/-- Two keys that begin alike and one that does not, and a text for each of the three ways. -/
theorem matchTyped_trichotomy_alike :
    ∃ m : Menu, m.entries = [("sta".toList, .submenu "status".toList),
        ("sho".toList, .submenu "show".toList), ("p".toList, .submenu rootName)] ∧
      m.Typeable ∧ m.entries ≠ [] ∧
      (KeyMatch.pending ["sta".toList, "sho".toList]).Describes m "s".toList ∧
      (KeyMatch.hit "p".toList (.submenu rootName)).Describes m "ps".toList ∧
      "ps".toList <+: "psx".toList ∧
      m.matchTyped "psx".toList = .hit "p".toList (.submenu rootName) ∧
      (KeyMatch.miss 2).Describes m "stx".toList ∧ "stx".toList <+: "stxa".toList ∧
      m.matchTyped "stxa".toList = .miss 2 := by
  have hm : Menu.Typeable ⟨"git".toList, none, [("sta".toList, .submenu "status".toList),
      ("sho".toList, .submenu "show".toList), ("p".toList, .submenu rootName)]⟩ :=
    ⟨by decide, by decide, by decide⟩
  have hne := List.cons_ne_nil ("sta".toList, Entry.submenu "status".toList)
    [("sho".toList, .submenu "show".toList), ("p".toList, .submenu rootName)]
  obtain ⟨hpending, -⟩ := matchTyped_trichotomy hm hne "s".toList
  obtain ⟨hhit, hkept⟩ := matchTyped_trichotomy hm hne "ps".toList
  obtain ⟨hmiss, hmissed⟩ := matchTyped_trichotomy hm hne "stx".toList
  exact ⟨_, rfl, hm, hne, (hpending _).1 (by cbv), (hhit _).1 (by cbv), by decide,
    (hkept "psx".toList (by decide)).1 _ _ (by cbv), (hmiss _).1 (by cbv), by decide,
    (hmissed "stxa".toList (by decide)).2 _ (by cbv)⟩

end Menu

end KeyMenu
