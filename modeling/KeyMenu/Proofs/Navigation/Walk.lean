import KeyMenu.Navigation.Place
import KeyMenu.Proofs.Navigation.Match

/-!
# Walking by keys

What `Place.settle` does as two relations. Keys at the beginning of the pending text lead through
sub-menus (`Place.Leads`) to a place where no further sub-menu is entered (`Place.Halts`). Both
survive when more text is typed behind.

* `Feed.Agrees`: the same outcome and the same place;
* `Place.exists_halts`: from every menu that exists, typing halts somewhere;
* `Place.Leads.agrees`, `Place.Halts.settle`: and there it is read off.
-/

namespace KeyMenu

/-- The outcome and the place are the same; the notes may differ. -/
structure Feed.Agrees (a b : Feed) : Prop where
  reading : a.reading = b.reading
  place : a.place = b.place

theorem Feed.Agrees.trans {a b d : Feed} (hab : a.Agrees b) (hbd : b.Agrees d) : a.Agrees d :=
  ⟨hab.reading.trans hbd.reading, hab.place.trans hbd.place⟩

namespace Place

/-- The place with more text pending. -/
def extend (p : Place) (text : Text) : Place := { p with pending := p.pending ++ text }

theorem feed_eq_settle (c : Config) (p : Place) (text : Text) :
    p.feed c text = settle c (p.extend text) := rfl

theorem extend_extend (p : Place) (a b : Text) : (p.extend a).extend b = p.extend (a ++ b) := by
  rw [extend, extend, extend, List.append_assoc]

/-- Keys at the beginning of the pending text lead through sub-menus from one place to another. -/
inductive Leads (c : Config) : Place → Place → Prop
  | refl (p : Place) : Leads c p p
  | step {p q : Place} {m : Menu} {key name : Text} (hm : c.menu? p.menu = some m)
      (he : (key, .submenu name) ∈ m.entries) (hk : key <+: p.pending)
      (h : Leads c (p.step key name) q) : Leads c p q

/-- Where no further sub-menu is entered: what has come of typing, and the place afterwards. -/
inductive Halts (c : Config) (p : Place) : Reading → Place → Prop
  | nothing (hnil : p.pending = []) : Halts c p .waiting p
  | pending {m : Menu} {candidates : List Text} (hm : c.menu? p.menu = some m)
      (hne : p.pending ≠ []) (h : m.matchTyped p.pending = .pending candidates) :
      Halts c p .waiting p
  | miss {m : Menu} {shared : Nat} (hm : c.menu? p.menu = some m) (hne : p.pending ≠ [])
      (h : m.matchTyped p.pending = .miss shared) :
      Halts c p (.unmatched ⟨m.name, p.pending, p.consumed + shared + 1, .noEntry⟩) p
  | command {m : Menu} {key : Text} {command : Command} (hm : c.menu? p.menu = some m)
      (hne : p.pending ≠ []) (h : m.matchTyped p.pending = .hit key (.command command)) :
      Halts c p (.selected ⟨command, key, m.name, p.path, p.pending.drop key.length⟩)
        { p with pending := [], consumed := p.consumed + key.length }

variable {c : Config} {p q : Place}

/-! ### Reading off -/

/-- A key of a sub-menu at the beginning of the pending text is taken away. -/
theorem length_step_lt (h : c.WellFormed) {m : Menu} (hm : c.menu? p.menu = some m)
    {key name : Text} (he : (key, .submenu name) ∈ m.entries) (hk : key <+: p.pending) :
    (p.step key name).pending.length < p.pending.length := by
  have hne := (h.typeable (c.mem_of_menu? hm)).ne_nil key (Menu.mem_keys he)
  have hkey : 0 < key.length := List.length_pos_iff.2 hne
  have hle := hk.length_le
  have hdrop : (p.step key name).pending.length = p.pending.length - key.length :=
    List.length_drop
  omega

/-- Typing goes on in the sub-menu, and the log tells about it. -/
theorem settle_of_submenu (h : c.WellFormed) {m : Menu} (hm : c.menu? p.menu = some m)
    {key name : Text} (he : (key, .submenu name) ∈ m.entries) (hk : key <+: p.pending) :
    settle c p = { settle c (p.step key name) with
      notes := .entering key name :: (settle c (p.step key name)).notes } := by
  have hshorter := length_step_lt h hm he hk
  have hne : p.pending ≠ [] := List.length_pos_iff.1 (Nat.lt_of_le_of_lt (Nat.zero_le _) hshorter)
  have hhit := (Menu.matchTyped_eq_hit_iff (h.typeable (c.mem_of_menu? hm))).2 ⟨he, hk⟩
  rw [settle, if_neg hne, hm]
  simp only [hhit, if_pos hshorter]

theorem Leads.agrees (h : c.WellFormed) (hl : Leads c p q) : (settle c p).Agrees (settle c q) := by
  induction hl with
  | refl p => exact ⟨rfl, rfl⟩
  | step hm he hk _ ih =>
      rw [settle_of_submenu h hm he hk]
      exact ⟨ih.reading, ih.place⟩

/-- The notes on the way come before those at its end. -/
theorem Leads.notes (h : c.WellFormed) (hl : Leads c p q) :
    ∃ entered, (settle c p).notes = entered ++ (settle c q).notes := by
  induction hl with
  | refl p => exact ⟨[], rfl⟩
  | @step p q m key name hm he hk _ ih =>
      obtain ⟨entered, hentered⟩ := ih
      refine ⟨.entering key name :: entered, ?_⟩
      rw [settle_of_submenu h hm he hk]
      exact congrArg _ hentered

theorem Halts.settle {reading : Reading} {place : Place} (hh : Halts c p reading place) :
    (settle c p).Agrees ⟨reading, place, []⟩ := by
  cases hh with
  | nothing hnil =>
      rw [settle_of_pending_nil c hnil]
      exact ⟨rfl, rfl⟩
  | pending hm hne hmatch | miss hm hne hmatch | command hm hne hmatch =>
      rw [Place.settle, if_neg hne, hm]
      simp only [hmatch]
      exact ⟨rfl, rfl⟩

/-- The last note tells of the command that has been selected. -/
theorem Halts.notes_of_selected {s : Selection} {place : Place}
    (hh : Halts c p (.selected s) place) :
    (Place.settle c p).notes = [.command s.key s.menu] := by
  cases hh with
  | command hm hne hmatch =>
      rw [Place.settle, if_neg hne, hm]
      simp only [hmatch]

/-- From every menu that exists, typing leads to a place where it halts. -/
theorem exists_halts (h : c.WellFormed) {m : Menu} (hm : c.menu? p.menu = some m) :
    ∃ q, Leads c p q ∧ Halts c q (settle c p).reading (settle c p).place := by
  -- Menus may lead to one another in a circle, but every key takes something of the pending text.
  induction hn : p.pending.length using Nat.strong_induction_on generalizing p m with
  | _ n ih =>
      have halt : ∀ {reading place}, Halts c p reading place →
          ∃ q, Leads c p q ∧ Halts c q (settle c p).reading (settle c p).place := by
        intro reading place hh
        refine ⟨p, .refl p, ?_⟩
        rw [hh.settle.reading, hh.settle.place]
        exact hh
      by_cases hnil : p.pending = []
      · exact halt (.nothing hnil)
      · cases hmatch : m.matchTyped p.pending with
        | pending candidates => exact halt (.pending hm hnil hmatch)
        | miss shared => exact halt (.miss hm hnil hmatch)
        | hit key entry =>
            have hmem := c.mem_of_menu? hm
            obtain ⟨he, hk⟩ := (Menu.matchTyped_eq_hit_iff (h.typeable hmem)).1 hmatch
            cases entry with
            | command command => exact halt (.command hm hnil hmatch)
            | submenu name =>
                have hshorter := length_step_lt h hm he hk
                obtain ⟨target, htarget⟩ := h.soundGraph.submenus m hmem key name he
                obtain ⟨q, hl, hh⟩ := ih _ (hn ▸ hshorter) (p := p.step key name) htarget rfl
                refine ⟨q, .step hm he hk hl, ?_⟩
                rw [settle_of_submenu h hm he hk]
                exact hh

/-- Typing a text leads to a place where it halts. -/
theorem exists_halts_feed (h : c.WellFormed) {m : Menu} (hm : c.menu? p.menu = some m)
    (text : Text) :
    ∃ q, Leads c (p.extend text) q ∧ Halts c q (p.feed c text).reading (p.feed c text).place :=
  exists_halts h hm

/-- Where no command is selected, typing stays. -/
theorem Halts.eq_of_not_selected {reading : Reading} {place : Place}
    (hh : Halts c p reading place) (h : ∀ s, reading ≠ .selected s) : place = p := by
  cases hh with
  | nothing _ | pending _ _ _ | miss _ _ _ => rfl
  | command _ _ _ => exact absurd rfl (h _)

theorem Halts.eq_of_waiting {place : Place} (hh : Halts c p .waiting place) : place = p :=
  hh.eq_of_not_selected nofun

theorem Halts.eq_of_unmatched {e : UnmatchedKeys} {place : Place}
    (hh : Halts c p (.unmatched e) place) : place = p :=
  hh.eq_of_not_selected nofun

/-! ### Typing more -/

/-- What is typed behind does not change the way through the sub-menus. -/
theorem Leads.extend (hl : Leads c p q) (more : Text) :
    Leads c (p.extend more) (q.extend more) := by
  induction hl with
  | refl p => exact .refl _
  | @step p q m key name hm he hk _ ih =>
      have hstep : (p.extend more).step key name = (p.step key name).extend more := by
        simp [Place.extend, Place.step, List.drop_append_of_le_length hk.length_le]
      refine .step (m := m) hm he (hk.trans (List.prefix_append p.pending more)) ?_
      rw [hstep]
      exact ih

/-- Text that matches nothing matches nothing with more behind it. -/
theorem Halts.extend_unmatched {e : UnmatchedKeys} {place : Place}
    (hh : Halts c p (.unmatched e) place) (more : Text) :
    Halts c (p.extend more) (.unmatched { e with keys := e.keys ++ more }) (place.extend more) := by
  cases hh with
  | miss hm hne h =>
      exact .miss hm (List.append_ne_nil_of_left_ne_nil hne more)
        (Menu.matchTyped_append_of_miss h more)

/-- A command that has been selected stays so, and what is typed behind goes to its remainder. -/
theorem Halts.extend_selected (h : c.WellFormed) {s : Selection} {place : Place}
    (hh : Halts c p (.selected s) place) (more : Text) :
    Halts c (p.extend more) (.selected { s with remainder := s.remainder ++ more }) place := by
  cases hh with
  | @command m key command hm hne hmatch =>
      have htypeable := h.typeable (c.mem_of_menu? hm)
      have hk := ((Menu.matchTyped_eq_hit_iff htypeable).1 hmatch).2
      rw [← List.drop_append_of_le_length hk.length_le]
      exact .command (p := p.extend more) hm (List.append_ne_nil_of_left_ne_nil hne more)
        (Menu.matchTyped_append_of_hit htypeable hmatch more)

end Place

end KeyMenu
