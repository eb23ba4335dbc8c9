import KeyMenu.Navigation.Match
import KeyMenu.Proofs.Config.Graph

/-!
# What typed text can match

In a menu whose keys can all be typed, at most one key begins a text. Once a key begins the typed
text, or no key can any more, further typing changes nothing about it.

* `eq_longestShared_iff`: how far a text that begins no key goes along with keys;
* `Menu.Typeable`, `Menu.Typeable.key_unique`;
* `Menu.matchTyped_eq_hit_iff`, `Menu.matchTyped_eq_pending_iff`, `Menu.matchTyped_eq_miss_iff`;
* `Menu.matchTyped_append_of_hit`, `Menu.matchTyped_append_of_miss`.
-/

namespace KeyMenu

/-- Text that is not the beginning of a key has shown where it departs from the key. -/
theorem sharedLength_append {key typed : Text} (more : Text) (h : ¬ typed <+: key) :
    sharedLength key (typed ++ more) = sharedLength key typed := by
  induction key generalizing typed with
  | nil => simp
  | cons a key ih =>
      cases typed with
      | nil => exact absurd List.nil_prefix h
      | cons b typed =>
          rw [List.cons_append, sharedLength, sharedLength]
          by_cases hab : a = b
          · subst hab
            have htail : ¬ typed <+: key := fun ht => h (List.cons_prefix_cons.2 ⟨rfl, ht⟩)
            rw [if_pos rfl, if_pos rfl, ih htail]
          · rw [if_neg hab, if_neg hab]

theorem longestShared_append {keys : List Text} {typed : Text} (more : Text)
    (h : ∀ key ∈ keys, ¬ typed <+: key) :
    longestShared keys (typed ++ more) = longestShared keys typed := by
  have hmap : keys.map (sharedLength · (typed ++ more)) = keys.map (sharedLength · typed) :=
    List.map_congr_left fun key hkey => sharedLength_append more (h key hkey)
  rw [longestShared, hmap, longestShared]

/-- The beginnings of a text that also begin the key are those up to the shared length. -/
theorem take_isPrefix_iff {key typed : Text} {n : Nat} (hn : n ≤ typed.length) :
    typed.take n <+: key ↔ n ≤ sharedLength key typed := by
  induction key generalizing typed n with
  | nil =>
      rw [List.prefix_nil, sharedLength_nil_left, List.take_eq_nil_iff, Nat.le_zero]
      constructor
      · rintro (hzero | hnil)
        · exact hzero
        · rw [hnil, List.length_nil] at hn
          exact Nat.le_zero.1 hn
      · exact .inl
  | cons a key ih =>
      cases n with
      | zero => simp
      | succ n =>
          cases typed with
          | nil => cases hn
          | cons b typed =>
              have hn' : n ≤ typed.length := Nat.le_of_succ_le_succ hn
              rw [List.take_succ_cons, List.cons_prefix_cons, ih hn', sharedLength]
              by_cases hab : a = b
              · simp [hab]
              · simp [hab, Ne.symm hab]

/-- The beginnings of a text that also begin keys are those up to the longest shared length. -/
theorem le_longestShared_iff {keys : List Text} {typed : Text} (hne : keys ≠ []) {n : Nat}
    (hn : n ≤ typed.length) :
    n ≤ longestShared keys typed ↔ ∃ key ∈ keys, typed.take n <+: key := by
  rw [longestShared, le_foldl_max_iff, Nat.le_zero]
  simp only [take_isPrefix_iff hn, List.mem_map, exists_exists_and_eq_and]
  refine ⟨?_, .inr⟩
  rintro (rfl | hsome)
  · obtain ⟨key, hkey⟩ := List.exists_mem_of_ne_nil keys hne
    exact ⟨key, hkey, Nat.zero_le _⟩
  · exact hsome

/-- Where a text begins no key, a beginning of it that begins a key is not the whole text. -/
theorem lt_length_of_take_isPrefix {keys : List Text} {typed : Text}
    (h : ∀ key ∈ keys, ¬ typed <+: key) {n : Nat} (hn : ∃ key ∈ keys, typed.take n <+: key) :
    n < typed.length := by
  obtain ⟨key, hkey, hp⟩ := hn
  by_contra hlong
  rw [List.take_of_length_le (Nat.le_of_not_lt hlong)] at hp
  exact h key hkey hp

theorem longestShared_lt_length {keys : List Text} {typed : Text} (hne : keys ≠ [])
    (h : ∀ key ∈ keys, ¬ typed <+: key) : longestShared keys typed < typed.length := by
  by_contra hlong
  have hwhole := (le_longestShared_iff hne (Nat.le_refl _)).1 (Nat.le_of_not_lt hlong)
  exact Nat.lt_irrefl _ (lt_length_of_take_isPrefix h hwhole)

/-- Where a text begins no key, the longest part that it shares with keys is the one that begins a
key while the part with one code point more begins none. -/
theorem eq_longestShared_iff {keys : List Text} {typed : Text} (hne : keys ≠ [])
    (h : ∀ key ∈ keys, ¬ typed <+: key) {shared : Nat} :
    shared = longestShared keys typed ↔
      (∃ key ∈ keys, typed.take shared <+: key) ∧
        ∀ key ∈ keys, ¬ typed.take (shared + 1) <+: key := by
  have hlt := longestShared_lt_length hne h
  constructor
  · rintro rfl
    refine ⟨(le_longestShared_iff hne (Nat.le_of_lt hlt)).1 (Nat.le_refl _), fun key hkey hp => ?_⟩
    exact Nat.lt_irrefl _ ((le_longestShared_iff hne hlt).2 ⟨key, hkey, hp⟩)
  · rintro ⟨hsome, hnone⟩
    have hn : shared < typed.length := lt_length_of_take_isPrefix h hsome
    refine Nat.le_antisymm ((le_longestShared_iff hne (Nat.le_of_lt hn)).2 hsome)
      (Nat.le_of_not_lt fun hmore => ?_)
    obtain ⟨key, hkey, hp⟩ := (le_longestShared_iff hne hn).1 hmore
    exact hnone key hkey hp

namespace Menu

/-- A menu in which every key can be typed: it is not empty, it stands once, and it neither begins
another key nor begins with one. -/
structure Typeable (m : Menu) : Prop where
  ne_nil : ∀ key ∈ m.keys, key ≠ []
  nodup : m.keys.Nodup
  eq_of_isPrefix : ∀ short ∈ m.keys, ∀ longer ∈ m.keys, short <+: longer → short = longer

variable {m : Menu} {typed : Text}

theorem mem_keys {key : Text} {entry : Entry} (h : (key, entry) ∈ m.entries) : key ∈ m.keys :=
  List.mem_map_of_mem (f := Prod.fst) h

/-- A key of a typeable menu has one entry. -/
theorem Typeable.entry_unique (h : m.Typeable) {key : Text} {a b : Entry}
    (ha : (key, a) ∈ m.entries) (hb : (key, b) ∈ m.entries) : a = b := by
  have hpair := List.inj_on_of_nodup_map h.nodup ha hb rfl
  exact congrArg Prod.snd hpair

/-- At most one key of a typeable menu begins a text. -/
theorem Typeable.key_unique (h : m.Typeable) {key other : Text} (hkey : key ∈ m.keys)
    (hother : other ∈ m.keys) (hp : key <+: typed) (hp' : other <+: typed) : key = other := by
  rcases List.prefix_or_prefix_of_prefix hp hp' with hpp | hpp
  · exact h.eq_of_isPrefix key hkey other hother hpp
  · exact (h.eq_of_isPrefix other hother key hkey hpp).symm

/-- A key that counts is a key of the menu and begins the typed text. -/
theorem mem_of_matchTyped {key : Text} {entry : Entry} (h : m.matchTyped typed = .hit key entry) :
    (key, entry) ∈ m.entries ∧ key <+: typed := by
  rw [matchTyped] at h
  cases hfind : m.entries.find? fun p => p.1.isPrefixOf typed with
  | none =>
      rw [hfind] at h
      cases hkeys : m.keys.filter typed.isPrefixOf <;> simp [hkeys] at h
  | some found =>
      rw [hfind] at h
      cases h
      exact ⟨List.mem_of_find?_eq_some hfind, by simpa using List.find?_some hfind⟩

/-- A key counts exactly if it begins the typed text. -/
theorem matchTyped_eq_hit_iff (h : m.Typeable) {key : Text} {entry : Entry} :
    m.matchTyped typed = .hit key entry ↔ (key, entry) ∈ m.entries ∧ key <+: typed := by
  refine ⟨mem_of_matchTyped, fun ⟨hmem, hp⟩ => ?_⟩
  have hfound : (m.entries.find? fun p => p.1.isPrefixOf typed).isSome = true :=
    List.find?_isSome.2 ⟨(key, entry), hmem, by simpa using hp⟩
  obtain ⟨⟨key', entry'⟩, hfind⟩ := Option.isSome_iff_exists.1 hfound
  have hhit : m.matchTyped typed = .hit key' entry' := by
    rw [matchTyped, hfind]
  obtain ⟨hmem', hp'⟩ := mem_of_matchTyped hhit
  obtain rfl : key = key' := h.key_unique (mem_keys hmem) (mem_keys hmem') hp hp'
  rw [hhit, h.entry_unique hmem hmem']

theorem find?_eq_none_iff :
    (m.entries.find? fun p => p.1.isPrefixOf typed) = none ↔ ∀ key ∈ m.keys, ¬ key <+: typed := by
  simp [keys, Table.names, List.find?_eq_none]

/-- Text that no key begins is pending exactly if it begins keys, and these are the candidates. -/
theorem matchTyped_eq_pending_iff {candidates : List Text} :
    m.matchTyped typed = .pending candidates ↔
      (∀ key ∈ m.keys, ¬ key <+: typed) ∧ candidates ≠ [] ∧
        candidates = m.keys.filter typed.isPrefixOf := by
  rw [matchTyped, ← find?_eq_none_iff]
  cases m.entries.find? fun p => p.1.isPrefixOf typed with
  | some found => simp
  | none =>
      cases m.keys.filter typed.isPrefixOf with
      | nil => simp
      | cons first more =>
          simp only [KeyMatch.pending.injEq, true_and]
          constructor
          · rintro rfl
            exact ⟨List.cons_ne_nil _ _, rfl⟩
          · rintro ⟨-, rfl⟩
            rfl

/-- Text matches nothing exactly if no key begins it and it begins no key. -/
theorem matchTyped_eq_miss_iff {shared : Nat} :
    m.matchTyped typed = .miss shared ↔
      (∀ key ∈ m.keys, ¬ key <+: typed) ∧ (∀ key ∈ m.keys, ¬ typed <+: key) ∧
        shared = longestShared m.keys typed := by
  have hfilter : (∀ key ∈ m.keys, ¬ typed <+: key) ↔ m.keys.filter typed.isPrefixOf = [] := by
    simp [List.filter_eq_nil_iff]
  rw [matchTyped, ← find?_eq_none_iff, hfilter]
  cases m.entries.find? fun p => p.1.isPrefixOf typed with
  | some found => simp
  | none =>
      cases m.keys.filter typed.isPrefixOf with
      | nil => simp [eq_comm]
      | cons first more => simp

/-- What is typed behind a key does not change which key it is. -/
theorem matchTyped_append_of_hit (h : m.Typeable) {key : Text} {entry : Entry}
    (hhit : m.matchTyped typed = .hit key entry) (more : Text) :
    m.matchTyped (typed ++ more) = .hit key entry := by
  obtain ⟨hmem, hp⟩ := (matchTyped_eq_hit_iff h).1 hhit
  exact (matchTyped_eq_hit_iff h).2 ⟨hmem, hp.trans (List.prefix_append typed more)⟩

/-- Nothing that is typed behind text without a match makes it match. -/
theorem matchTyped_append_of_miss {shared : Nat} (hmiss : m.matchTyped typed = .miss shared)
    (more : Text) : m.matchTyped (typed ++ more) = .miss shared := by
  obtain ⟨hkeys, htyped, rfl⟩ := matchTyped_eq_miss_iff.1 hmiss
  refine matchTyped_eq_miss_iff.2 ⟨fun key hkey hp => ?_, fun key hkey hp => ?_, ?_⟩
  · rcases List.prefix_or_prefix_of_prefix hp (List.prefix_append typed more) with hk | ht
    · exact hkeys key hkey hk
    · exact htyped key hkey ht
  · exact htyped key hkey ((List.prefix_append typed more).trans hp)
  · exact (longestShared_append more htyped).symm

end Menu

/-- The keys of every menu of a well-formed configuration can be typed. -/
theorem Config.WellFormed.typeable {c : Config} (h : c.WellFormed) {m : Menu} (hm : m ∈ c.menus) :
    m.Typeable := by
  refine ⟨fun key hkey => ?_, (h.menus m hm).keys, fun _ hs _ hl => h.eq_of_isPrefix hm hs hl⟩
  obtain ⟨p, hp, rfl⟩ := List.mem_map.1 hkey
  exact ((h.menus m hm).entries p hp).1.1

end KeyMenu
