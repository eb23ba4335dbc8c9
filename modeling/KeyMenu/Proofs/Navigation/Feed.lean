import KeyMenu.Proofs.Navigation.Reachable
import Mathlib

/-!
# Typing in parts

It makes no difference how typed text is cut into parts. As long as a part waits for more, typing
the next one comes to the same as typing both at once, and typing code point by code point ends
where typing the whole text does.

* `Typing`, `Place.feedEach`: typing code point by code point;
* `Place.feed_append_of_waiting`, `Place.feed_append_of_selected`,
  `Place.feed_append_of_unmatched`: what more text does to each outcome;
* `Place.feed_parts`: the main theorem.
-/

namespace KeyMenu

/-- What comes of typing a text code point by code point. It ends with the first one that does not
wait for more; the text behind that is not read. -/
structure Typing where
  reading : Reading
  place : Place
  unread : Text
  deriving DecidableEq

/-- Types a text code point by code point. -/
def Place.feedEach (c : Config) (p : Place) : Text → Typing
  | [] => ⟨.waiting, p, []⟩
  | char :: rest =>
      let feed := p.feed c [char]
      match feed.reading with
      | .waiting => feedEach c feed.place rest
      | reading => ⟨reading, feed.place, rest⟩

/-- Typing code point by code point ends like typing the whole text. If that waits, so do the
parts, at the same place. If it selects a command, they select the same one right before its
remainder. If it matches nothing, they match nothing in the same menu at the same position, and
what they leave unread is the end of the unmatched text. -/
def Typing.EndsLike (t : Typing) (whole : Feed) : Prop :=
  match whole.reading with
  | .waiting => t = ⟨.waiting, whole.place, []⟩
  | .selected s => t = ⟨.selected { s with remainder := [] }, whole.place, s.remainder⟩
  | .unmatched e =>
      ∃ keys, t.reading = .unmatched { e with keys := keys } ∧ e.keys = keys ++ t.unread
  | .missingMenu _ => False

theorem Typing.EndsLike.of_agrees {t : Typing} {a b : Feed} (h : t.EndsLike a) (hab : a.Agrees b) :
    t.EndsLike b := by
  obtain ⟨reading, place, notes⟩ := a
  obtain ⟨rfl, rfl⟩ := hab
  exact h

namespace Place

variable {c : Config} {p : Place} {m : Menu}

/-! ### More text behind -/

/-- Unless a command has been selected, typing on comes to the same as typing all at once. -/
theorem feed_append_of_not_selected (h : c.WellFormed) (hm : c.menu? p.menu = some m) {a : Text}
    (ha : ∀ s, (p.feed c a).reading ≠ .selected s) (b : Text) :
    ((p.feed c a).place.feed c b).Agrees (p.feed c (a ++ b)) := by
  obtain ⟨q, hl, hh⟩ := exists_halts_feed h hm a
  have hmore := (hl.extend b).agrees h
  rw [extend_extend] at hmore
  rw [hh.eq_of_not_selected ha]
  exact ⟨hmore.reading.symm, hmore.place.symm⟩

/-- **After text that waits for more, typing on comes to the same as typing all at once.** -/
theorem feed_append_of_waiting (h : c.WellFormed) (hm : c.menu? p.menu = some m) {a : Text}
    (hw : (p.feed c a).reading = .waiting) (b : Text) :
    ((p.feed c a).place.feed c b).Agrees (p.feed c (a ++ b)) := by
  refine feed_append_of_not_selected h hm (fun s hs => ?_) b
  rw [hw] at hs
  cases hs

/-- Text behind a selected command goes to its remainder. -/
theorem feed_append_of_selected (h : c.WellFormed) (hm : c.menu? p.menu = some m) {a : Text}
    {s : Selection} (hs : (p.feed c a).reading = .selected s) (b : Text) :
    (p.feed c (a ++ b)).Agrees
      ⟨.selected { s with remainder := s.remainder ++ b }, (p.feed c a).place, []⟩ := by
  obtain ⟨q, hl, hh⟩ := exists_halts_feed h hm a
  rw [hs] at hh
  have hmore := ((hl.extend b).agrees h).trans (hh.extend_selected h b).settle
  rw [extend_extend] at hmore
  exact hmore

/-- Text behind unmatched text belongs to it, and the position stays. -/
theorem feed_append_of_unmatched (h : c.WellFormed) (hm : c.menu? p.menu = some m) {a : Text}
    {e : UnmatchedKeys} (he : (p.feed c a).reading = .unmatched e) (b : Text) :
    (p.feed c (a ++ b)).Agrees
      ⟨.unmatched { e with keys := e.keys ++ b }, (p.feed c a).place.extend b, []⟩ := by
  obtain ⟨q, hl, hh⟩ := exists_halts_feed h hm a
  rw [he] at hh
  have hmore := ((hl.extend b).agrees h).trans (hh.extend_unmatched b).settle
  rw [extend_extend] at hmore
  exact hmore

/-! ### One code point -/

/-- A key that one more code point completes is all that is pending. -/
theorem Settled.key_eq (hp : p.Settled c) (hm : c.menu? p.menu = some m) {key : Text} {char : Char}
    (hkey : key ∈ m.keys) (hk : key <+: p.pending ++ [char]) : key = p.pending ++ [char] := by
  obtain ⟨m', hm', hkeys⟩ := hp
  cases hm.symm.trans hm'
  exact (List.prefix_concat_iff.1 hk).resolve_right (hkeys key hkey)

/-- With nothing pending, no sub-menu is entered. -/
theorem Leads.eq_of_pending_nil (h : c.WellFormed) {q : Place} (hl : Leads c p q)
    (hnil : p.pending = []) : q = p := by
  cases hl with
  | refl => rfl
  | step hm he hk hl =>
      rw [hnil, List.prefix_nil] at hk
      exact absurd hk ((h.typeable (c.mem_of_menu? hm)).ne_nil _ (Menu.mem_keys he))

/-- With one more code point, either no sub-menu is entered or nothing stays pending. -/
theorem Settled.eq_or_pending_eq_nil (h : c.WellFormed) (hp : p.Settled c) {q : Place}
    {char : Char} (hl : Leads c (p.extend [char]) q) : q = p.extend [char] ∨ q.pending = [] := by
  cases hl with
  | refl => exact .inl rfl
  | @step _ _ m' first name hm' he hk hl =>
      -- the key that leads on takes all that is pending
      have hfirst := hp.key_eq hm' (Menu.mem_keys he) hk
      have hnil : ((p.extend [char]).step first name).pending = [] :=
        List.drop_of_length_le (hfirst ▸ Nat.le_refl _)
      exact .inr (hl.eq_of_pending_nil h hnil ▸ hnil)

/-- A command that one more code point selects has no remainder. -/
theorem Settled.remainder_eq_nil (h : c.WellFormed) (hp : p.Settled c) {char : Char} {s : Selection}
    (hs : (p.feed c [char]).reading = .selected s) : s.remainder = [] := by
  obtain ⟨m, hm⟩ := hp.exists_menu
  obtain ⟨q, hl, hh⟩ := exists_halts_feed h hm [char]
  rw [hs] at hh
  generalize (p.feed c [char]).place = place at hh
  cases hh with
  | @command m' key command hm' hne hmatch =>
      obtain ⟨hmem, hk⟩ := Menu.mem_of_matchTyped hmatch
      rcases hp.eq_or_pending_eq_nil h hl with rfl | hnil
      · have hkey := hp.key_eq hm' (Menu.mem_keys hmem) hk
        exact List.drop_of_length_le (hkey ▸ Nat.le_refl _)
      · exact absurd hnil hne

/-! ### Code point by code point -/

theorem Settled.feedEach_endsLike (h : c.WellFormed) (hp : p.Settled c) (herror : ¬ p.InError c)
    (text : Text) : (p.feedEach c text).EndsLike (p.feed c text) := by
  induction text generalizing p with
  | nil =>
      have hnil := hp.feed_nil herror
      rw [Typing.EndsLike, hnil.reading, hnil.place]
      rfl
  | cons char rest ih =>
      obtain ⟨m, hm⟩ := hp.exists_menu
      have happend : char :: rest = [char] ++ rest := rfl
      rw [feedEach]
      cases hreading : (p.feed c [char]).reading with
      | waiting =>
          -- the place after one code point satisfies all that the induction asks for
          have hsettled := settled_feed h hm [char]
          have hrest := ih hsettled (not_inError_of_waiting h hm hreading)
          exact hrest.of_agrees (feed_append_of_waiting h hm hreading rest)
      | selected s =>
          have hmore := feed_append_of_selected h hm hreading rest
          have hremainder := hp.remainder_eq_nil h hreading
          rw [Typing.EndsLike, happend, hmore.reading, hmore.place]
          obtain ⟨command, key, menu, path, remainder⟩ := s
          cases hremainder
          rfl
      | unmatched e =>
          have hmore := feed_append_of_unmatched h hm hreading rest
          rw [Typing.EndsLike, happend, hmore.reading]
          exact ⟨e.keys, rfl, rfl⟩
      | missingMenu name => exact absurd hreading (feed_ne_missingMenu h hm [char] name)

/-- **It makes no difference how typed text is cut into parts.** From every place that can be
reached and is not in error, typing a text that waits and then another comes to the same as typing
both at once, and typing code point by code point ends like typing the whole text. -/
theorem feed_parts {text : Text} (h : Config.ofText text = .ok c) (hp : p.Reachable c)
    (herror : ¬ p.InError c) :
    (∀ a b, (p.feed c a).reading = .waiting →
      ((p.feed c a).place.feed c b).Agrees (p.feed c (a ++ b))) ∧
    ∀ typed, (p.feedEach c typed).EndsLike (p.feed c typed) := by
  have hwell := Config.wellFormed_of_ofText h
  have hsettled := hp.settled hwell
  refine ⟨fun a b hw => ?_, fun typed => hsettled.feedEach_endsLike hwell herror typed⟩
  obtain ⟨m, hm⟩ := hsettled.exists_menu
  exact feed_append_of_waiting hwell hm hw b

/-- Two menus that lead to one another, and a part that ends inside a key. -/
theorem feed_parts_cycle :
    ∃ c p, Config.ofText ("menu root \x7b g: git \x7d ".toList ++
        "menu git \x7b st: \"s\" p: root \x7d".toList) = .ok c ∧
      p = (start.feed c "g".toList).place ∧ (p.feed c "pgs".toList).reading = .waiting ∧
      ((p.feed c "pgs".toList).place.feed c "tx".toList).Agrees
        (p.feed c ("pgs".toList ++ "tx".toList)) ∧
      (p.feedEach c "pgstx".toList).EndsLike (p.feed c "pgstx".toList) := by
  obtain ⟨c, hc, hg, hpgs⟩ : ∃ c, Config.ofText ("menu root \x7b g: git \x7d ".toList ++
        "menu git \x7b st: \"s\" p: root \x7d".toList) = .ok c ∧
      (start.feed c "g".toList).reading = .waiting ∧
      ((start.feed c "g".toList).place.feed c "pgs".toList).reading = .waiting :=
    ⟨⟨⟨none, true⟩, [], [⟨"root".toList, none, [("g".toList, .submenu "git".toList)]⟩,
      ⟨"git".toList, none, [("st".toList, .command ⟨[.literal "s".toList], none, false, none⟩),
        ("p".toList, .submenu "root".toList)]⟩]⟩, by cbv, by cbv, by cbv⟩
  have hwell := Config.wellFormed_of_ofText hc
  obtain ⟨root, hroot⟩ := hwell.soundGraph.root
  have herror := not_inError_of_waiting (p := start) hwell hroot hg
  obtain ⟨hparts, heach⟩ := feed_parts hc (.feed .start "g".toList) herror
  exact ⟨c, _, hc, rfl, hpgs, hparts _ _ hpgs, heach _⟩

end Place

end KeyMenu
