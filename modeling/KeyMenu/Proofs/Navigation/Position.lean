import KeyMenu.Proofs.Navigation.Feed
import KeyMenu.Proofs.Navigation.Meaning

/-!
# Where typed text goes wrong

The position that is told about unmatched text counts up to the first code point that makes it
unmatched: the text before that one waits for more, and with it nothing that is typed behind helps.
It does not depend on how the text is cut into parts that are typed one after the other.

* `Place.Rejects`; `Place.rejects_iff_position_le`: which beginnings of the text are rejected;
* `Place.feedAll`, `Place.agrees_feedAll`: typing several texts one after the other;
* `Place.feed_position`: the main theorem.
-/

namespace KeyMenu

namespace Place

/-- The text matches nothing when it is typed. -/
def Rejects (c : Config) (p : Place) (typed : Text) : Prop :=
  ∃ e, (p.feed c typed).reading = .unmatched e

/-- The place after several texts have been typed one after the other, whatever comes of each. -/
def feedAll (c : Config) (p : Place) (parts : List Text) : Place :=
  parts.foldl (fun q part => (q.feed c part).place) p

@[simp] theorem feedAll_concat (c : Config) (p : Place) (parts : List Text) (part : Text) :
    p.feedAll c (parts ++ [part]) = ((p.feedAll c parts).feed c part).place := by
  rw [feedAll, List.foldl_append]
  rfl

variable {c : Config} {p : Place} {m : Menu} {typed a : Text} {e : UnmatchedKeys}

/-! ### Beginnings of unmatched text -/

/-- Rejected text stays so with more behind it, and its position stays. -/
theorem exists_unmatched_append (h : c.WellFormed) (hm : c.menu? p.menu = some m)
    (he : (p.feed c a).reading = .unmatched e) (more : Text) :
    ∃ e', (p.feed c (a ++ more)).reading = .unmatched e' ∧ e'.position = e.position :=
  ⟨_, (feed_append_of_unmatched h hm he more).reading, rfl⟩

/-- No beginning of unmatched text selects a command. -/
theorem not_selected_of_unmatched (h : c.WellFormed) (hm : c.menu? p.menu = some m)
    (he : (p.feed c typed).reading = .unmatched e) (ha : a <+: typed) (s : Selection) :
    (p.feed c a).reading ≠ .selected s := by
  intro hs
  obtain ⟨more, rfl⟩ := ha
  rw [(feed_append_of_selected h hm hs more).reading] at he
  cases he

/-- Text is rejected that begins no key behind a walk, and neither begins with one. -/
theorem rejects_of_walk (h : c.WellFormed) (hnil : p.pending = []) {keys names : List Text}
    (hw : c.Walk p.menu keys names m) {rest : Text} {shared : Nat}
    (hnone : ∀ key ∈ m.keys, ¬ key <+: rest ∧ ¬ rest <+: key)
    (hshared : ∃ key ∈ m.keys, rest.take shared <+: key)
    (hdiffers : ∀ key ∈ m.keys, ¬ rest.take (shared + 1) <+: key) :
    p.Rejects c (keys.flatten ++ rest) := by
  have hpending : (p.extend (keys.flatten ++ rest)).pending = keys.flatten ++ rest := by
    rw [extend, hnil, List.nil_append]
  have hl := leads_of_walk (p := p.extend (keys.flatten ++ rest)) hw rfl hpending
  have hh : Halts c ((p.extend (keys.flatten ++ rest)).arrive keys names m rest) _ _ :=
    halts_of_stuck hw.menu?_name hnone hshared hdiffers
  exact ⟨_, ((hl.agrees h).trans hh.settle).reading⟩

/-- With nothing pending, the position lies within the typed text, and the text up to there is
rejected. -/
theorem exists_rejects_take (h : c.WellFormed) (hm : c.menu? p.menu = some m)
    (hnil : p.pending = []) (he : (p.feed c typed).reading = .unmatched e) :
    ∃ n ≤ typed.length, e.position = p.consumed + n ∧ p.Rejects c (typed.take n) := by
  have hmeans := means_feed h hm typed
  rw [he, hnil, List.nil_append] at hmeans
  generalize (p.feed c typed).place = place at hmeans
  cases hmeans with
  | @unmatched keys names last rest shared hw htyped _ hnone hshared hdiffers =>
      obtain ⟨key, hkey, hsharedKey⟩ := id hshared
      have hshort : shared < rest.length := by
        by_contra hlong
        rw [List.take_of_length_le (Nat.le_of_not_lt hlong)] at hsharedKey
        exact (hnone key hkey).2 hsharedKey
      have hlength : keys.flatten.length + rest.length = typed.length := by
        rw [← htyped, List.length_append]
      refine ⟨keys.flatten.length + (shared + 1), by omega, ?_, ?_⟩
      · simp only [arrive, Nat.add_assoc]
      · -- the walk is the same, and what follows it ends with the first code point that differs
        rw [← htyped, List.take_length_add_append]
        have htaken : ∃ key ∈ last.keys, (rest.take (shared + 1)).take shared <+: key := by
          simpa [List.take_take] using hshared
        refine rejects_of_walk h hnil hw (fun key hkey => ⟨fun hp => ?_, hdiffers key hkey⟩)
          htaken (by simpa [List.take_take] using hdiffers)
        exact (hnone key hkey).1 (hp.trans (List.take_prefix _ _))

/-- **Exactly the beginnings that reach the position are rejected.** -/
theorem rejects_iff_position_le (h : c.WellFormed) (hm : c.menu? p.menu = some m)
    (hnil : p.pending = []) (he : (p.feed c typed).reading = .unmatched e) (ha : a <+: typed) :
    p.Rejects c a ↔ e.position ≤ p.consumed + a.length := by
  constructor
  · rintro ⟨e', he'⟩
    obtain ⟨n, hn, hposition, -⟩ := exists_rejects_take h hm hnil he'
    obtain ⟨more, rfl⟩ := ha
    obtain ⟨e'', he'', hsame⟩ := exists_unmatched_append h hm he' more
    cases he.symm.trans he''
    omega
  · intro hle
    obtain ⟨n, hn, hposition, e', he'⟩ := exists_rejects_take h hm hnil he
    have hlength : n ≤ a.length := by omega
    obtain ⟨more, hmore⟩ : typed.take n <+: a :=
      List.prefix_of_prefix_length_le (List.take_prefix n typed) ha
        ((List.length_take_le n typed).trans hlength)
    obtain ⟨e'', he'', -⟩ := exists_unmatched_append h hm he' more
    exact ⟨e'', hmore ▸ he''⟩

/-! ### Several texts -/

/-- As long as no command is selected, typing texts one after the other comes to the same as typing
them at once. -/
theorem agrees_feedAll (h : c.WellFormed) (hm : c.menu? p.menu = some m)
    (hs : ∀ a, a <+: typed → ∀ s, (p.feed c a).reading ≠ .selected s) {parts : List Text}
    {part : Text} (hp : parts.flatten ++ part <+: typed) :
    ((p.feedAll c parts).feed c part).Agrees (p.feed c (parts.flatten ++ part)) := by
  induction parts using List.reverseRecOn generalizing part with
  | nil => exact ⟨rfl, rfl⟩
  | append_singleton parts last ih =>
      rw [List.flatten_append, List.flatten_singleton] at hp ⊢
      have hlast := (List.prefix_append (parts.flatten ++ last) part).trans hp
      rw [feedAll_concat, (ih hlast).place]
      exact feed_append_of_not_selected h hm (hs _ hlast) part

/-- Whatever part of unmatched text is typed behind others, it waits or tells the position of the
whole text. -/
theorem reading_feedAll (h : c.WellFormed) (hm : c.menu? p.menu = some m)
    (he : (p.feed c typed).reading = .unmatched e) {parts : List Text} {part : Text}
    (hp : parts.flatten ++ part <+: typed) :
    ((p.feedAll c parts).feed c part).reading = .waiting ∧
        ¬ p.Rejects c (parts.flatten ++ part) ∨
      ∃ e', ((p.feedAll c parts).feed c part).reading = .unmatched e' ∧
        e'.position = e.position ∧ p.Rejects c (parts.flatten ++ part) := by
  have hselected := not_selected_of_unmatched h hm he (a := parts.flatten ++ part) hp
  have hagrees := agrees_feedAll h hm (fun a ha => not_selected_of_unmatched h hm he ha) hp
  rw [hagrees.reading]
  cases hreading : (p.feed c (parts.flatten ++ part)).reading with
  | waiting =>
      refine .inl ⟨rfl, ?_⟩
      rintro ⟨e', he'⟩
      rw [hreading] at he'
      cases he'
  | selected s => exact absurd hreading (hselected s)
  | unmatched e' =>
      obtain ⟨more, rfl⟩ := hp
      obtain ⟨e'', he'', hsame⟩ := exists_unmatched_append h hm hreading more
      cases he.symm.trans he''
      exact .inr ⟨e', rfl, hsame.symm, e', hreading⟩
  | missingMenu name => exact absurd hreading (feed_ne_missingMenu h hm _ name)

/-- **The position that is told is that of the first code point that nothing can follow.** A
beginning of the text is rejected exactly if it reaches the position, and so are all texts that
begin with it. However the text is cut into parts that are typed one after the other, a part that
ends before the position waits, and every later part tells the same position. -/
theorem feed_position {text : Text} (h : Config.ofText text = .ok c)
    (he : (start.feed c typed).reading = .unmatched e) :
    (0 < e.position ∧ e.position ≤ typed.length) ∧
    (∀ a, a <+: typed → (start.Rejects c a ↔ e.position ≤ a.length) ∧
      ((∀ more, start.Rejects c (a ++ more)) ↔ e.position ≤ a.length)) ∧
    ∀ early part late, (early ++ part :: late).flatten = typed →
      ((start.feedAll c early).feed c part).reading = .waiting ∧
          (early.flatten ++ part).length < e.position ∨
        e.position ≤ (early.flatten ++ part).length ∧
          ∃ e', ((start.feedAll c early).feed c part).reading = .unmatched e' ∧
            e'.position = e.position := by
  have hwell := Config.wellFormed_of_ofText h
  obtain ⟨root, hroot⟩ := hwell.soundGraph.root
  have hiff {a : Text} (ha : a <+: typed) : start.Rejects c a ↔ e.position ≤ a.length := by
    rw [rejects_iff_position_le hwell hroot rfl he ha, start, Nat.zero_add]
  have hnil : ¬ start.Rejects c [] := by
    rintro ⟨e', he'⟩
    rw [feed, settle_of_pending_nil c rfl] at he'
    cases he'
  refine ⟨⟨?_, (hiff List.prefix_rfl).1 ⟨e, he⟩⟩, fun a ha => ⟨hiff ha, ?_, ?_⟩, ?_⟩
  · rw [hiff List.nil_prefix] at hnil
    exact Nat.lt_of_not_le hnil
  · exact fun hall => (hiff ha).1 (a.append_nil ▸ hall [])
  · intro hle more
    obtain ⟨e', he'⟩ := (hiff ha).2 hle
    obtain ⟨e'', he'', -⟩ := exists_unmatched_append hwell hroot he' more
    exact ⟨e'', he''⟩
  · intro early part late hparts
    have hp : early.flatten ++ part <+: typed := by
      rw [← hparts, List.flatten_append, List.flatten_cons, ← List.append_assoc]
      exact List.prefix_append _ _
    rcases reading_feedAll hwell hroot he hp with ⟨hw, hnot⟩ | ⟨e', he', hsame, hr⟩
    · exact .inl ⟨hw, Nat.lt_of_not_le fun hle => hnot ((hiff hp).2 hle)⟩
    · exact .inr ⟨(hiff hp).1 hr, e', he', hsame⟩

/-- A text that goes wrong inside a key behind a circle of menus, in parts that end inside that key
as well. -/
theorem feed_position_circle :
    ∃ c e, Config.ofText ("menu root \x7b g: git \x7d ".toList ++
        "menu git \x7b sta: \"s\" p: root \x7d".toList) = .ok c ∧
      (start.feed c "gpgstx!".toList).reading = .unmatched e ∧
      (0 < e.position ∧ e.position ≤ "gpgstx!".toList.length) ∧
      "gpgst".toList <+: "gpgstx!".toList ∧
      ((start.Rejects c "gpgst".toList ↔ e.position ≤ "gpgst".toList.length) ∧
        ((∀ more, start.Rejects c ("gpgst".toList ++ more)) ↔
          e.position ≤ "gpgst".toList.length)) ∧
      (["gpgs".toList, "t".toList] ++ "x".toList :: ["!".toList]).flatten = "gpgstx!".toList ∧
      (((start.feedAll c ["gpgs".toList, "t".toList]).feed c "x".toList).reading = .waiting ∧
          (["gpgs".toList, "t".toList].flatten ++ "x".toList).length < e.position ∨
        e.position ≤ (["gpgs".toList, "t".toList].flatten ++ "x".toList).length ∧
          ∃ e', ((start.feedAll c ["gpgs".toList, "t".toList]).feed c "x".toList).reading =
            .unmatched e' ∧ e'.position = e.position) ∧
      e.position = 6 := by
  obtain ⟨c, hc, he⟩ : ∃ c, Config.ofText ("menu root \x7b g: git \x7d ".toList ++
        "menu git \x7b sta: \"s\" p: root \x7d".toList) = .ok c ∧
      (start.feed c "gpgstx!".toList).reading =
        .unmatched ⟨"git".toList, "stx!".toList, 6, .noEntry⟩ :=
    ⟨⟨⟨none, true⟩, [], [⟨"root".toList, none, [("g".toList, .submenu "git".toList)]⟩,
      ⟨"git".toList, none, [("sta".toList, .command ⟨[.literal "s".toList], none, false, none⟩),
        ("p".toList, .submenu "root".toList)]⟩]⟩, by cbv, by cbv⟩
  obtain ⟨hbounds, hbegin, hparts⟩ := feed_position hc he
  have hp : "gpgst".toList <+: "gpgstx!".toList := by decide
  exact ⟨c, _, hc, he, hbounds, hp, hbegin _ hp, rfl, hparts _ _ ["!".toList] rfl, rfl⟩

end Place

end KeyMenu
