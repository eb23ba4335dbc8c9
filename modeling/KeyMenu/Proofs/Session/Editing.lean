import KeyMenu.Proofs.Navigation.Journey
import KeyMenu.Proofs.Session.Echo
import KeyMenu.Proofs.Session.Replay

/-!
# Editing what is typed

While no code point makes a key or rules all keys out, typing and taking back change nothing but the
text that is pending. What comes of such an editing is what comes of typing the code points that
survive it, and everything that is done afterwards goes on from there.

* `Edit`, with `Edit.survivors` and `Place.editAll`: typing and taking back, in any order;
* `Place.LeavesOpen`, `Place.Undecided`: no key is made, and keys are left;
* `Place.Expectant`, `Place.Expectant.halts`: what every edit keeps up, and what comes of it;
* `Session.exists_readOn_edits`: the edits as keys of a session;
* `Place.editAll_of_undecided`: the main theorem.
-/

namespace KeyMenu

/-! ### Edits -/

/-- A code point is typed, or the last one that is pending is taken back. -/
inductive Edit
  | insert (char : Char)
  | takeBack
  deriving DecidableEq

namespace Edit

/-- A text after an edit. From an empty text nothing can be taken back. -/
def apply (text : Text) : Edit → Text
  | .insert char => text ++ [char]
  | .takeBack => text.dropLast

/-- The code points that survive: each one that is taken back is the last of those that are left. -/
def survivors (edits : List Edit) : Text := edits.foldl apply []

/-- A key of the terminal does the edit. -/
def DoneBy : Edit → Text → Prop
  | .insert char, key => key = [char] ∧ isBackspace key = false
  | .takeBack, key => isBackspace key = true

end Edit

namespace Place

variable {c : Config} {p : Place} {edits : List Edit}

/-- The place after an edit. -/
def edit (c : Config) (p : Place) : Edit → Place
  | .insert char => (p.feed c [char]).place
  | .takeBack => p.backspace

/-- The place after some edits. -/
def editAll (c : Config) (p : Place) (edits : List Edit) : Place := edits.foldl (edit c) p

/-- An edit that decides nothing. With the code point that is typed, what is pending neither makes a
key of the menu nor rules all of them out: no key begins it, and it begins a key. -/
def LeavesOpen (c : Config) (p : Place) : Edit → Prop
  | .insert char =>
      ∃ m ∈ c.menu? p.menu, (∀ key ∈ m.keys, ¬ key <+: p.pending ++ [char]) ∧
        ∃ key ∈ m.keys, p.pending ++ [char] <+: key
  | .takeBack => True

/-- None of the edits decides anything at the place where it is made. -/
def Undecided (c : Config) : Place → List Edit → Prop
  | _, [] => True
  | p, e :: edits => p.LeavesOpen c e ∧ Undecided c (p.edit c e) edits

instance (c : Config) (p : Place) : (e : Edit) → Decidable (p.LeavesOpen c e)
  | .insert _ => inferInstanceAs (Decidable (∃ _ ∈ _, _ ∧ _))
  | .takeBack => inferInstanceAs (Decidable True)

instance decidableUndecided (c : Config) :
    (p : Place) → (edits : List Edit) → Decidable (p.Undecided c edits)
  | _, [] => inferInstanceAs (Decidable True)
  | p, e :: edits =>
      have := decidableUndecided c (p.edit c e) edits
      inferInstanceAs (Decidable (_ ∧ _))

/-! ### What an edit keeps up -/

/-- No key begins what is pending, and nothing is pending or the beginning of a key. -/
structure Expectant (c : Config) (p : Place) : Prop where
  settled : p.Settled c
  awaits : p.Awaits c

/-- Such a place waits as it is. -/
theorem Expectant.halts (hp : p.Expectant c) : Halts c p .waiting p := by
  by_cases hnil : p.pending = []
  · exact .nothing hnil
  · obtain ⟨m, hm, hkeys⟩ := hp.settled
    obtain ⟨m', hm', key, hkey, hbegins⟩ := hp.awaits.resolve_left hnil
    cases hm.symm.trans hm'
    have hcandidate : key ∈ m.keys.filter p.pending.isPrefixOf :=
      List.mem_filter.2 ⟨hkey, List.isPrefixOf_iff_prefix.2 hbegins⟩
    exact .pending hm hnil
      (Menu.matchTyped_eq_pending_iff.2 ⟨hkeys, List.ne_nil_of_mem hcandidate, rfl⟩)

theorem Expectant.backspace (hp : p.Expectant c) : p.backspace.Expectant c where
  settled := hp.settled.shorten rfl (List.dropLast_prefix _)
  awaits := hp.awaits.shorten rfl (List.dropLast_prefix _)

theorem LeavesOpen.extend {char : Char} (h : p.LeavesOpen c (.insert char)) :
    (p.extend [char]).Expectant c := by
  obtain ⟨m, hm, hkeys, hbegins⟩ := h
  exact ⟨⟨m, hm, hkeys⟩, .inr ⟨m, hm, hbegins⟩⟩

/-- A code point that decides nothing is added to what is pending, and nothing else happens. -/
theorem LeavesOpen.feed {char : Char} (h : p.LeavesOpen c (.insert char)) :
    (p.feed c [char]).Agrees ⟨.waiting, p.extend [char], []⟩ := h.extend.halts.settle

theorem LeavesOpen.edit_eq {e : Edit} (h : p.LeavesOpen c e) :
    p.edit c e = { p with pending := e.apply p.pending } := by
  cases e with
  | insert char => exact h.feed.place
  | takeBack => rfl

theorem LeavesOpen.expectant {e : Edit} (h : p.LeavesOpen c e) (hp : p.Expectant c) :
    (p.edit c e).Expectant c := by
  cases e with
  | insert char =>
      rw [h.edit_eq]
      exact h.extend
  | takeBack => exact hp.backspace

/-- **Edits that decide nothing change nothing but what is pending.** -/
theorem editAll_eq (h : p.Undecided c edits) :
    p.editAll c edits = { p with pending := edits.foldl Edit.apply p.pending } := by
  induction edits generalizing p with
  | nil => rfl
  | cons e edits ih =>
      obtain ⟨he, hedits⟩ := h
      rw [editAll, List.foldl_cons, ← editAll, ih hedits, he.edit_eq, List.foldl_cons]

theorem Expectant.editAll (hp : p.Expectant c) (h : p.Undecided c edits) :
    (p.editAll c edits).Expectant c := by
  induction edits generalizing p with
  | nil => exact hp
  | cons e edits ih => exact ih (h.1.expectant hp) h.2

theorem Reachable.edit (hp : p.Reachable c) (e : Edit) : (p.edit c e).Reachable c := by
  cases e with
  | insert char => exact hp.feed [char]
  | takeBack => exact hp.backspace

end Place

/-! ### Edits in a session -/

namespace Session

variable {s : Session} {m : Moment}

/-- A key that does an edit which decides nothing does nothing else, besides a note in the log. -/
theorem exists_press_eq (h : s.config.WellFormed) (hp : m.place.Reachable s.config) {e : Edit}
    {key : Text} (hkey : e.DoneBy key) (hopen : m.place.LeavesOpen s.config e) :
    ∃ logged, (∀ event ∈ logged, event.isIdle = true) ∧
      s.press m key = (Step.goesOn [] { m with
        place := m.place.edit s.config e, message := none }).after logged := by
  cases e with
  | insert char =>
      obtain ⟨rfl, hchar⟩ := hkey
      obtain ⟨menu, hmenu⟩ := (hp.settled h).exists_menu
      have hwaiting := hopen.feed.reading
      have hidle := isIdle_of_mem_walked h hmenu [char] fun _ => by
        rw [hwaiting]
        exact Reading.noConfusion
      exact ⟨_, hidle, press_of_waiting hchar hwaiting⟩
  | takeBack =>
      refine ⟨[], fun _ hevent => absurd hevent List.not_mem_nil, ?_⟩
      exact if_pos hkey

/-- **A session in which edits are typed that decide nothing goes on at the place to which they
lead.** On the way menus are shown, and nothing happens. -/
theorem exists_readOn_edits (h : s.config.WellFormed) (hp : m.place.Reachable s.config)
    {edits : List Edit} {keys : List Text} (hkeys : List.Forall₂ Edit.DoneBy edits keys)
    (hopen : m.place.Undecided s.config edits) (typed : List Text) :
    ∃ events, (∀ event ∈ events, event.isIdle = true) ∧
      s.readOn m (keys ++ typed) =
        (s.readOn { m with
          place := m.place.editAll s.config edits
          message := if edits = [] then m.message else none } typed).after events := by
  induction hkeys generalizing m with
  | nil => exact ⟨[], fun _ hevent => absurd hevent List.not_mem_nil, rfl⟩
  | @cons e key edits keys hkey _ ih =>
      obtain ⟨view, hview⟩ := hp.exists_view h m.message
      obtain ⟨logged, hlogged, hpress⟩ := exists_press_eq h hp hkey hopen.1
      obtain ⟨events, hevents, hrest⟩ := ih (m := { m with
        place := m.place.edit s.config e, message := none }) (hp.edit e) hopen.2
      refine ⟨.shown view :: (logged ++ events), ?_, ?_⟩
      · exact List.forall_mem_cons.2 ⟨rfl, List.forall_mem_append.2 ⟨hlogged, hevents⟩⟩
      · rw [List.cons_append, readOn_cons hview, hpress, resume_after, resume, hrest]
        simp [SessionEnd.after_after, Place.editAll]

end Session

namespace Place

variable {c : Config} {p : Place} {edits : List Edit}

/-- **Of typing and taking back, what survives counts.** From every place that can be reached and
where nothing is pending, edits that decide nothing lead to where typing the surviving code points
leads, at once or one by one: nothing but these is pending, and nothing else has changed. Further
text does what it does behind the surviving code points, and so do further keys of a session. -/
theorem editAll_of_undecided {text : Text} (h : Config.ofText text = .ok c) (hp : p.Reachable c)
    (hnil : p.pending = []) (hopen : p.Undecided c edits) :
    let kept := Edit.survivors edits
    p.editAll c edits = (p.feed c kept).place ∧ (p.feed c kept).reading = .waiting ∧
      p.feedEach c kept = ⟨.waiting, p.editAll c edits, []⟩ ∧
      p.editAll c edits = { p with pending := kept } ∧
      (∀ more, ((p.editAll c edits).feed c more).Agrees (p.feed c (kept ++ more))) ∧
      ∀ (s : Session) (m : Moment) (keys typed : List Text), s.config = c → m.place = p →
        List.Forall₂ Edit.DoneBy edits keys →
        ∃ events, (∀ event ∈ events, event.isIdle = true) ∧
          s.readOn m (keys ++ typed) =
            (s.readOn { m with
              place := (p.feed c kept).place
              message := if edits = [] then m.message else none } typed).after events := by
  intro kept
  have hwell := Config.wellFormed_of_ofText h
  have hsettled := hp.settled hwell
  obtain ⟨m, hm⟩ := hsettled.exists_menu
  have hstart : p.Expectant c := ⟨hsettled, .inl hnil⟩
  have hedited : p.editAll c edits = { p with pending := kept } := by
    rw [editAll_eq hopen, hnil]
    rfl
  -- the place after the edits is the one at which reading the surviving text begins and ends
  have hfeed : (p.feed c kept).Agrees ⟨.waiting, p.editAll c edits, []⟩ := by
    have hextend : p.extend kept = p.editAll c edits := by
      rw [hedited, extend, hnil, List.nil_append]
    rw [feed_eq_settle, hextend]
    exact (hstart.editAll hopen).halts.settle
  have herror : ¬ p.InError c := by
    rintro ⟨e, he⟩
    rw [feed_eq_settle, extend_nil, hstart.halts.settle.reading] at he
    cases he
  have hplace : p.editAll c edits = (p.feed c kept).place := hfeed.place.symm
  refine ⟨hplace, hfeed.reading, ?_, hedited, fun more => ?_, ?_⟩
  · have heach := hsettled.feedEach_endsLike hwell herror kept
    rw [Typing.EndsLike, hfeed.reading, hfeed.place] at heach
    exact heach
  · rw [hplace]
    exact feed_append_of_waiting hwell hm hfeed.reading more
  · rintro s m keys typed rfl rfl hkeys
    rw [← hplace]
    exact Session.exists_readOn_edits hwell hp hkeys hopen typed

/-- Of two keys that begin alike one is begun, given up and begun again, with more taken back than
has been typed. -/
theorem editAll_of_undecided_again :
    ∃ c p edits, Config.ofText ("menu root \x7b g: git \x7d ".toList ++
        "menu git \x7b sta: \"s\" sho: \"t\" p: root \x7d".toList) = .ok c ∧
      p = (start.feed c "gpg".toList).place ∧ p.Reachable c ∧ p.pending = [] ∧
      edits = [.insert 's', .insert 't', .takeBack, .takeBack, .takeBack, .insert 's',
        .insert 't', .takeBack, .insert 'h'] ∧
      p.Undecided c edits ∧ Edit.survivors edits = "sh".toList ∧
      p.editAll c edits = (p.feed c "sh".toList).place ∧
      (p.feed c "sh".toList).reading = .waiting ∧
      p.feedEach c "sh".toList = ⟨.waiting, p.editAll c edits, []⟩ ∧
      p.editAll c edits = { p with pending := "sh".toList } ∧
      (∀ more, ((p.editAll c edits).feed c more).Agrees (p.feed c ("sh".toList ++ more))) ∧
      ∀ (s : Session) (m : Moment) (typed : List Text), s.config = c → m.place = p →
        ∃ events, (∀ event ∈ events, event.isIdle = true) ∧
          s.readOn m ([['s'], ['t'], ['\x7f'], ['\x08'], ['\x7f'], ['s'], ['t'], ['\x08'],
              ['h']] ++ typed) =
            (s.readOn { m with
              place := (p.feed c "sh".toList).place
              message := none } typed).after events := by
  obtain ⟨c, hc, hnil, hopen⟩ : ∃ c, Config.ofText ("menu root \x7b g: git \x7d ".toList ++
        "menu git \x7b sta: \"s\" sho: \"t\" p: root \x7d".toList) = .ok c ∧
      (start.feed c "gpg".toList).place.pending = [] ∧
      (start.feed c "gpg".toList).place.Undecided c [.insert 's', .insert 't', .takeBack, .takeBack,
        .takeBack, .insert 's', .insert 't', .takeBack, .insert 'h'] :=
    ⟨⟨⟨none, true⟩, [], [⟨"root".toList, none, [("g".toList, .submenu "git".toList)]⟩,
      ⟨"git".toList, none, [("sta".toList, .command ⟨[.literal "s".toList], none, false, none⟩),
        ("sho".toList, .command ⟨[.literal "t".toList], none, false, none⟩),
        ("p".toList, .submenu "root".toList)]⟩]⟩, by cbv, by cbv, of_decide_eq_true (by cbv)⟩
  have hp : (start.feed c "gpg".toList).place.Reachable c := Reachable.start.feed _
  obtain ⟨hplace, hwaiting, heach, hpending, hmore, hsession⟩ :=
    editAll_of_undecided hc hp hnil hopen
  refine ⟨c, _, _, hc, rfl, hp, hnil, rfl, hopen, rfl, hplace, hwaiting, heach, hpending, hmore,
    fun s m typed hs hm => hsession s m _ typed hs hm ?_⟩
  simp [Edit.DoneBy, isBackspace]

end Place

end KeyMenu
