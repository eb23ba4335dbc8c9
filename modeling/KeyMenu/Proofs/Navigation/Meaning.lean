import KeyMenu.Proofs.Navigation.Reachable
import Mathlib

/-!
# What typed text means

A typed text is read along a walk through the menus: keys of sub-menus at its beginning, and behind
them the key of a command, or a text that could still become a key, or one that cannot. What it
means is said by `Place.Means` without a word about how it is found. In a configuration that has
been read every text has exactly one meaning, and typing comes to it.

* `Config.Walk`, with `Config.Walk.isPrefix_of_stuck`: a walk that cannot go on is the longest;
* `Place.Means`; `Place.means_feed`, `Place.Means.agrees`;
* `Place.feed_eq_iff_means`: the main theorem.
-/

namespace KeyMenu

/-- Keys that lead from a menu through entries for sub-menus, the menus entered on the way, and the
menu in which they end. -/
inductive Config.Walk (c : Config) : Text → List Text → List Text → Menu → Prop
  | stay {menu : Text} {m : Menu} (hm : c.menu? menu = some m) : Walk c menu [] [] m
  | enter {menu key name : Text} {keys names : List Text} {m last : Menu}
      (hm : c.menu? menu = some m) (he : (key, .submenu name) ∈ m.entries)
      (hw : Walk c name keys names last) : Walk c menu (key :: keys) (name :: names) last

namespace Config

variable {c : Config} {menu : Text} {keys names : List Text} {m : Menu}

/-- A walk ends in a menu of the configuration. -/
theorem Walk.menu?_name (hw : c.Walk menu keys names m) : c.menu? m.name = some m := by
  induction hw with
  | stay hm => exact (name_of_menu? hm).symm ▸ hm
  | enter _ _ _ ih => exact ih

/-- Where no key of the last menu begins what is left of a text, no other walk along the text goes
further. -/
theorem Walk.isPrefix_of_stuck (h : c.WellFormed) (hw : c.Walk menu keys names m) {rest : Text}
    (hstuck : ∀ key ∈ m.keys, ¬ key <+: rest) {keys' names' : List Text} {m' : Menu} {rest' : Text}
    (hw' : c.Walk menu keys' names' m') (heq : keys.flatten ++ rest = keys'.flatten ++ rest') :
    keys' <+: keys := by
  induction hw generalizing keys' names' with
  | stay hm =>
      cases hw' with
      | stay => exact List.prefix_rfl
      | @enter _ key' _ keys' _ _ _ hm' he' _ =>
          cases hm.symm.trans hm'
          rw [List.flatten_nil, List.nil_append] at heq
          refine absurd ?_ (hstuck key' (Menu.mem_keys he'))
          rw [heq, List.flatten_cons, List.append_assoc]
          exact List.prefix_append key' _
  | @enter menu key name keys names first last hm he hw ih =>
      cases hw' with
      | stay => exact List.nil_prefix
      | @enter _ key' name' keys' names' first' _ hm' he' hw' =>
          cases hm.symm.trans hm'
          rw [List.flatten_cons, List.append_assoc, List.flatten_cons, List.append_assoc] at heq
          -- both first keys begin the same text, so that the two walks begin alike
          have htypeable := h.typeable (c.mem_of_menu? hm)
          have hp : key <+: key ++ (keys.flatten ++ rest) := List.prefix_append key _
          have hp' : key' <+: key ++ (keys.flatten ++ rest) := heq ▸ List.prefix_append key' _
          obtain rfl : key = key' :=
            htypeable.key_unique (Menu.mem_keys he) (Menu.mem_keys he') hp hp'
          cases htypeable.entry_unique he he'
          exact List.cons_prefix_cons.2 ⟨rfl, ih hstuck hw' (List.append_cancel_left heq)⟩

end Config

namespace Place

/-- The place to which keys lead, with a text pending there. -/
def arrive (p : Place) (keys names : List Text) (m : Menu) (rest : Text) : Place :=
  ⟨m.name, rest, p.path ++ names, p.consumed + keys.flatten.length⟩

/-- What a typed text means at a place: keys lead on, and behind them comes the key of a command,
or the beginning of a key, or text that neither begins with a key nor begins one. The position of
such text is that of its first code point that no key allows. -/
inductive Means (c : Config) (p : Place) (typed : Text) : Reading → Place → Prop
  | command {keys names : List Text} {m : Menu} {key remainder : Text} {command : Command}
      (hw : c.Walk p.menu keys names m) (htyped : keys.flatten ++ (key ++ remainder) = typed)
      (he : (key, .command command) ∈ m.entries) :
      Means c p typed (.selected ⟨command, key, m.name, p.path ++ names, remainder⟩)
        (p.arrive (keys ++ [key]) names m [])
  | waiting {keys names : List Text} {m : Menu} {rest : Text} (hw : c.Walk p.menu keys names m)
      (htyped : keys.flatten ++ rest = typed)
      (hrest : rest = [] ∨ ∃ key ∈ m.keys, rest <+: key ∧ rest ≠ key) :
      Means c p typed .waiting (p.arrive keys names m rest)
  | unmatched {keys names : List Text} {m : Menu} {rest : Text} {shared : Nat}
      (hw : c.Walk p.menu keys names m) (htyped : keys.flatten ++ rest = typed)
      (hlongest : ∀ keys' names' m' rest', c.Walk p.menu keys' names' m' →
        keys'.flatten ++ rest' = typed → keys'.length ≤ keys.length)
      (hnone : ∀ key ∈ m.keys, ¬ key <+: rest ∧ ¬ rest <+: key)
      (hshared : ∃ key ∈ m.keys, rest.take shared <+: key)
      (hdiffers : ∀ key ∈ m.keys, ¬ rest.take (shared + 1) <+: key) :
      Means c p typed
        (.unmatched ⟨m.name, rest, (p.arrive keys names m rest).consumed + shared + 1, .noEntry⟩)
        (p.arrive keys names m rest)

variable {c : Config} {p q : Place} {m : Menu} {keys names : List Text}

/-! ### Walks and places -/

theorem arrive_step (p : Place) (key name : Text) (keys names : List Text) (m : Menu)
    (rest : Text) : (p.step key name).arrive keys names m rest =
      p.arrive (key :: keys) (name :: names) m rest := by
  simp [arrive, step, Nat.add_assoc]

/-- Behind the key of a command, nothing is pending and the key counts as well. -/
theorem arrive_concat (p : Place) (keys names : List Text) (m : Menu) (key : Text) :
    p.arrive (keys ++ [key]) names m [] =
      ⟨m.name, [], p.path ++ names, p.consumed + keys.flatten.length + key.length⟩ := by
  rw [arrive, List.flatten_append, List.flatten_singleton, List.length_append, Nat.add_assoc]

/-- Keys at the beginning of the pending text lead to the place where their walk ends. -/
theorem leads_of_walk {menu : Text} (hw : c.Walk menu keys names m) (hmenu : p.menu = menu)
    {rest : Text} (hp : p.pending = keys.flatten ++ rest) :
    Leads c p (p.arrive keys names m rest) := by
  induction hw generalizing p with
  | @stay menu m hm =>
      have hsame : p.arrive [] [] m rest = p := by
        obtain ⟨menu', pending, path, consumed⟩ := p
        simp_all [arrive, c.name_of_menu? hm]
      rw [hsame]
      exact .refl p
  | @enter menu key name keys names first last hm he hw ih =>
      rw [List.flatten_cons, List.append_assoc] at hp
      have hrest : (p.step key name).pending = keys.flatten ++ rest := by
        rw [step, hp, List.drop_left]
      refine .step (hmenu ▸ hm) he (hp ▸ List.prefix_append key _) ?_
      exact arrive_step p key name keys names last rest ▸ ih rfl hrest

/-- Every way along the pending text is a walk. -/
theorem Leads.exists_walk (hl : Leads c p q) (hm : c.menu? q.menu = some m) :
    ∃ keys names, c.Walk p.menu keys names m ∧ p.pending = keys.flatten ++ q.pending ∧
      q = p.arrive keys names m q.pending := by
  induction hl with
  | refl p =>
      refine ⟨[], [], .stay hm, rfl, ?_⟩
      rw [arrive, c.name_of_menu? hm, List.append_nil]
      rfl
  | @step p q first key name hm' he hk hl ih =>
      obtain ⟨keys, names, hw, hpending, hq⟩ := ih hm
      refine ⟨key :: keys, name :: names, .enter hm' he hw, ?_, hq.trans (arrive_step ..)⟩
      rw [List.flatten_cons, List.append_assoc, ← hpending]
      exact (List.prefix_iff_eq_append.1 hk).symm

/-! ### Typing comes to a meaning -/

/-- Where no further sub-menu is entered, the rest of the text decides. -/
theorem Halts.means (h : c.WellFormed) (hw : c.Walk p.menu keys names m) {typed rest : Text}
    (htyped : keys.flatten ++ rest = typed) {reading : Reading} {place : Place}
    (hh : Halts c (p.arrive keys names m rest) reading place) : p.Means c typed reading place := by
  have hfound : c.menu? (p.arrive keys names m rest).menu = some m := hw.menu?_name
  have hwell := h.menus m (c.mem_of_menu? hfound)
  cases hh with
  | nothing hnil => exact .waiting hw htyped (.inl hnil)
  | pending hm hne hmatch =>
      cases hfound.symm.trans hm
      obtain ⟨hkeys, hcandidates, rfl⟩ := Menu.matchTyped_eq_pending_iff.1 hmatch
      obtain ⟨key, hkey⟩ := List.exists_mem_of_ne_nil _ hcandidates
      obtain ⟨hmem, hp⟩ := List.mem_filter.1 hkey
      refine .waiting hw htyped (.inr ⟨key, hmem, List.isPrefixOf_iff_prefix.1 hp, ?_⟩)
      rintro rfl
      exact hkeys _ hmem List.prefix_rfl
  | miss hm hne hmatch =>
      cases hfound.symm.trans hm
      obtain ⟨hkeys, hrest, hshared⟩ := Menu.matchTyped_eq_miss_iff.1 hmatch
      have hmenu : m.keys ≠ [] := fun hnil => hwell.ne_nil (List.map_eq_nil_iff.1 hnil)
      obtain ⟨hsome, hdiffers⟩ := (eq_longestShared_iff hmenu hrest).1 hshared
      refine .unmatched hw htyped (fun keys' names' m' rest' hw' htyped' => ?_)
        (fun key hkey => ⟨hkeys key hkey, hrest key hkey⟩) hsome hdiffers
      exact (hw.isPrefix_of_stuck h hkeys hw' (htyped.trans htyped'.symm)).length_le
  | @command m' key command hm hne hmatch =>
      cases hfound.symm.trans hm
      obtain ⟨he, hk⟩ := Menu.mem_of_matchTyped hmatch
      have hrest : key ++ rest.drop key.length = rest := List.prefix_iff_eq_append.1 hk
      have htyped' : keys.flatten ++ (key ++ rest.drop key.length) = typed := by
        rw [hrest]
        exact htyped
      have hmeans := Means.command hw htyped' he
      rw [arrive_concat] at hmeans
      exact hmeans

/-- What comes of typing is a meaning of the text. -/
theorem means_feed (h : c.WellFormed) {first : Menu} (hm : c.menu? p.menu = some first)
    (text : Text) :
    p.Means c (p.pending ++ text) (p.feed c text).reading (p.feed c text).place := by
  obtain ⟨q, hl, hh⟩ := exists_halts_feed h hm text
  obtain ⟨target, htarget⟩ := hl.exists_menu h hm
  obtain ⟨keys, names, hw, hpending, hq⟩ := hl.exists_walk htarget
  rw [hq] at hh
  exact hh.means h (p := p) hw hpending.symm

/-! ### There is no other meaning -/

/-- A text that begins a key and is not the key begins with no key. -/
theorem not_isPrefix_of_isPrefix (h : m.Typeable) {key rest : Text} (hkey : key ∈ m.keys)
    (hp : rest <+: key) (hne : rest ≠ key) : ∀ other ∈ m.keys, ¬ other <+: rest := by
  intro other hother hp'
  cases h.eq_of_isPrefix other hother key hkey (hp'.trans hp)
  exact hne (hp.eq_of_length (Nat.le_antisymm hp.length_le hp'.length_le))

theorem halts_of_command (h : m.Typeable) (hm : c.menu? m.name = some m) {key : Text}
    {command : Command} (he : (key, .command command) ∈ m.entries) (remainder : Text) :
    Halts c (p.arrive keys names m (key ++ remainder))
      (.selected ⟨command, key, m.name, p.path ++ names, remainder⟩)
      (p.arrive (keys ++ [key]) names m []) := by
  have hne : key ++ remainder ≠ [] :=
    List.append_ne_nil_of_left_ne_nil (h.ne_nil key (Menu.mem_keys he)) _
  have hmatch : m.matchTyped (key ++ remainder) = .hit key (.command command) :=
    (Menu.matchTyped_eq_hit_iff h).2 ⟨he, List.prefix_append key _⟩
  have hh := Halts.command (p := p.arrive keys names m (key ++ remainder)) hm hne hmatch
  rw [arrive, List.drop_left] at hh
  rw [arrive_concat]
  exact hh

theorem halts_of_beginning (h : m.Typeable) (hm : c.menu? m.name = some m) {rest : Text}
    (hrest : rest = [] ∨ ∃ key ∈ m.keys, rest <+: key ∧ rest ≠ key) :
    Halts c (p.arrive keys names m rest) .waiting (p.arrive keys names m rest) := by
  by_cases hnil : rest = []
  · exact .nothing hnil
  · obtain ⟨key, hkey, hp, hne⟩ := hrest.resolve_left hnil
    have hcandidate : key ∈ m.keys.filter rest.isPrefixOf :=
      List.mem_filter.2 ⟨hkey, List.isPrefixOf_iff_prefix.2 hp⟩
    exact .pending hm hnil (Menu.matchTyped_eq_pending_iff.2
      ⟨not_isPrefix_of_isPrefix h hkey hp hne, List.ne_nil_of_mem hcandidate, rfl⟩)

theorem halts_of_stuck (hm : c.menu? m.name = some m) {rest : Text} {shared : Nat}
    (hnone : ∀ key ∈ m.keys, ¬ key <+: rest ∧ ¬ rest <+: key)
    (hshared : ∃ key ∈ m.keys, rest.take shared <+: key)
    (hdiffers : ∀ key ∈ m.keys, ¬ rest.take (shared + 1) <+: key) :
    Halts c (p.arrive keys names m rest)
      (.unmatched ⟨m.name, rest, (p.arrive keys names m rest).consumed + shared + 1, .noEntry⟩)
      (p.arrive keys names m rest) := by
  have hkeys : ∀ key ∈ m.keys, ¬ key <+: rest := fun key hkey => (hnone key hkey).1
  have hextends : ∀ key ∈ m.keys, ¬ rest <+: key := fun key hkey => (hnone key hkey).2
  obtain ⟨key, hkey, -⟩ := id hshared
  have hrest : rest ≠ [] := by
    rintro rfl
    exact hextends key hkey List.nil_prefix
  have hlongest : shared = longestShared m.keys rest :=
    (eq_longestShared_iff (List.ne_nil_of_mem hkey) hextends).2 ⟨hshared, hdiffers⟩
  exact .miss hm hrest (Menu.matchTyped_eq_miss_iff.2 ⟨hkeys, hextends, hlongest⟩)

/-- Typing comes to every meaning that the text has. -/
theorem Means.agrees (h : c.WellFormed) {text : Text} {reading : Reading} {place : Place}
    (hmeans : p.Means c (p.pending ++ text) reading place) :
    (p.feed c text).Agrees ⟨reading, place, []⟩ := by
  have hagrees {keys names : List Text} {m : Menu} {rest : Text} (hw : c.Walk p.menu keys names m)
      (htyped : keys.flatten ++ rest = p.pending ++ text)
      (hh : Halts c (p.arrive keys names m rest) reading place) :
      (p.feed c text).Agrees ⟨reading, place, []⟩ :=
    ((leads_of_walk (p := p.extend text) hw rfl htyped.symm).agrees h).trans hh.settle
  have htypeable {keys names : List Text} {m : Menu} (hw : c.Walk p.menu keys names m) :
      m.Typeable := h.typeable (c.mem_of_menu? hw.menu?_name)
  cases hmeans with
  | command hw htyped he =>
      exact hagrees hw htyped (halts_of_command (htypeable hw) hw.menu?_name he _)
  | waiting hw htyped hrest =>
      exact hagrees hw htyped (halts_of_beginning (htypeable hw) hw.menu?_name hrest)
  | unmatched hw htyped _ hnone hshared hdiffers =>
      exact hagrees hw htyped (halts_of_stuck hw.menu?_name hnone hshared hdiffers)

/-- **Typing comes to what the text means.** At every place that can be reached, the outcome of
typing and the place afterwards are the one meaning of the pending text with the typed text behind
it. In particular, typing the keys on the way to a command selects it. -/
theorem feed_eq_iff_means {text : Text} (h : Config.ofText text = .ok c) (hp : p.Reachable c)
    (typed : Text) :
    (∀ reading place, ((p.feed c typed).reading = reading ∧ (p.feed c typed).place = place) ↔
      p.Means c (p.pending ++ typed) reading place) ∧
    ∀ keys names m key command, p.pending = [] → c.Walk p.menu keys names m →
      (key, .command command) ∈ m.entries →
        (p.feed c (keys.flatten ++ key)).Agrees
          ⟨.selected ⟨command, key, m.name, p.path ++ names, []⟩,
            p.arrive (keys ++ [key]) names m [], []⟩ := by
  have hwell := Config.wellFormed_of_ofText h
  obtain ⟨first, hfirst⟩ := (hp.settled hwell).exists_menu
  refine ⟨fun reading place => ⟨?_, fun hmeans => ?_⟩,
    fun keys names m key command hnil hw he => ?_⟩
  · rintro ⟨rfl, rfl⟩
    exact means_feed hwell hfirst typed
  · have hagrees := hmeans.agrees hwell
    exact ⟨hagrees.reading, hagrees.place⟩
  · have htyped : keys.flatten ++ (key ++ []) = p.pending ++ (keys.flatten ++ key) := by
      rw [hnil, List.nil_append, List.append_nil]
    exact (Means.command hw htyped he).agrees hwell

/-- Two menus that lead to one another: a walk in a circle to a command, and text behind its
key. -/
theorem feed_eq_iff_means_cycle :
    ∃ c p s, Config.ofText ("menu root \x7b g: git \x7d ".toList ++
        "menu git \x7b st: \"s\" p: root \x7d".toList) = .ok c ∧
      p = (start.feed c "g".toList).place ∧ (p.feed c "pgstx".toList).reading = .selected s ∧
      s.path = ["git".toList, "root".toList, "git".toList] ∧ s.remainder = "x".toList ∧
      p.Means c (p.pending ++ "pgstx".toList) (.selected s) (p.feed c "pgstx".toList).place := by
  obtain ⟨c, s, hc, hs, hpath, hremainder⟩ :
      ∃ c s, Config.ofText ("menu root \x7b g: git \x7d ".toList ++
        "menu git \x7b st: \"s\" p: root \x7d".toList) = .ok c ∧
      ((start.feed c "g".toList).place.feed c "pgstx".toList).reading = .selected s ∧
      s.path = ["git".toList, "root".toList, "git".toList] ∧ s.remainder = "x".toList :=
    ⟨⟨⟨none, true⟩, [], [⟨"root".toList, none, [("g".toList, .submenu "git".toList)]⟩,
      ⟨"git".toList, none, [("st".toList, .command ⟨[.literal "s".toList], none, false, none⟩),
        ("p".toList, .submenu "root".toList)]⟩]⟩,
      ⟨⟨[.literal "s".toList], none, false, none⟩, "st".toList, "git".toList,
        ["git".toList, "root".toList, "git".toList], "x".toList⟩, by cbv, by cbv, rfl, rfl⟩
  obtain ⟨hmeans, -⟩ := feed_eq_iff_means hc (.feed .start "g".toList) "pgstx".toList
  exact ⟨c, _, s, hc, rfl, hs, hpath, hremainder, (hmeans _ _).1 ⟨hs, rfl⟩⟩

end Place

end KeyMenu
