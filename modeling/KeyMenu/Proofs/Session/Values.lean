import KeyMenu.Proofs.Session.Replay
import KeyMenu.Text.Enclosed

/-!
# Values behind a key and values beside it

The values for a command can be typed behind its key, each in single quotes, or be given apart.
Both come to the same: the words of the line are the values again, whatever code points they are
made of, and nothing else about a session depends on where its values come from.

* `Text.arguments_line`: a line behind a space splits into the words it was written from;
* `Place.feed_append_eq_of_selected`: text behind the key of a command is its remainder, and the
  rest of what comes of typing stays;
* `Session.readOn_extra`: once the keys it is started with are typed, a session has no use for
  extra values;
* `Session.run_values_behind_key`: the main theorem.
-/

namespace KeyMenu

namespace Text

/-! ### Lines -/

@[simp] theorem line_nil : line [] = [] := rfl

/-- A line of words begins with a quote. -/
theorem exists_line_cons (w : Text) (ws : List Text) : ∃ rest, line (w :: ws) = '\x27' :: rest := by
  cases ws with
  | nil => exact ⟨w.flatMap enclosedChar ++ ['\x27'], rfl⟩
  | cons v vs =>
      exact ⟨(w.flatMap enclosedChar ++ ['\x27']) ++ [' '] ++ line (v :: vs), rfl⟩

/-- Blanks in front of the first word are passed over. -/
theorem words_space (rest : Text) : words (' ' :: rest) = words rest := by
  rw [words, wordsFrom.eq_def, words]
  exact if_pos rfl

/-- **A line behind a space splits into the words it was written from.** Without words it is white
space alone; with words it holds quotes, even if all words are blank or empty. -/
theorem arguments_line (ws : List Text) : arguments (' ' :: line ws) = .ok ws := by
  cases ws with
  | nil => rfl
  | cons w ws =>
      have hfilled : isBlankText (' ' :: line (w :: ws)) = false := by
        obtain ⟨rest, hrest⟩ := exists_line_cons w ws
        rw [hrest]
        rfl
      rw [arguments, hfilled, words_space, words_line]
      rfl

end Text

namespace Place

variable {c : Config} {p q : Place}

/-! ### Text behind the key of a command -/

/-- Where a command is selected, the last note is all that is noted. -/
theorem Halts.settle_of_selected {selection : Selection} {place : Place}
    (hh : Halts c p (.selected selection) place) :
    Place.settle c p = ⟨.selected selection, place, [.command selection.key selection.menu]⟩ := by
  have hreading := hh.settle.reading
  have hplace := hh.settle.place
  have hnotes := hh.notes_of_selected
  cases hsettle : Place.settle c p with
  | mk reading place' notes =>
      rw [hsettle] at hreading hplace hnotes
      cases hreading
      cases hplace
      cases hnotes
      rfl

/-- More text behind a selected command changes only its remainder. -/
theorem Leads.settle_extend (h : c.WellFormed) (hl : Leads c p q) {selection : Selection}
    {place : Place} (hh : Halts c q (.selected selection) place) (more : Text) :
    Place.settle c (p.extend more) = { Place.settle c p with
      reading := .selected { selection with remainder := selection.remainder ++ more } } := by
  induction hl with
  | refl p => rw [(hh.extend_selected h more).settle_of_selected, hh.settle_of_selected]
  | @step p q m key name hm he hk _ ih =>
      have hstep : (p.extend more).step key name = (p.step key name).extend more := by
        simp [Place.extend, Place.step, List.drop_append_of_le_length hk.length_le]
      have hmore : key <+: (p.extend more).pending := hk.trans (List.prefix_append p.pending more)
      rw [settle_of_submenu h (p := p.extend more) hm he hmore, settle_of_submenu h hm he hk, hstep,
        ih hh]

/-- Text behind the key of a command is its remainder; the place and the notes are the same. -/
theorem feed_append_eq_of_selected (h : c.WellFormed) {m : Menu} (hm : c.menu? p.menu = some m)
    {keys : Text} {selection : Selection}
    (hselected : (p.feed c keys).reading = .selected selection) (more : Text) :
    p.feed c (keys ++ more) = { p.feed c keys with
      reading := .selected { selection with remainder := selection.remainder ++ more } } := by
  obtain ⟨q, hl, hh⟩ := exists_halts_feed h hm keys
  rw [hselected] at hh
  have hmore := hl.settle_extend h hh more
  rw [extend_extend] at hmore
  exact hmore

end Place

namespace Session

variable {s : Session} {m : Moment}

/-! ### Where values come from -/

/-- Values behind the key come before the given ones. -/
theorem values_line (values given : List Text) {selection : Selection}
    (hremainder : selection.remainder = []) :
    Session.values given { selection with remainder := ' ' :: Text.line values } =
      Session.values (values ++ given) selection := by
  have hnone : Text.arguments [] = .ok [] := rfl
  simp only [Session.values, Text.arguments_line, hremainder, hnone, List.nil_append]

/-- A command is run with the values behind its key as with given ones. -/
theorem execute_line (values : List Text) (place : Place) {selection : Selection}
    (hremainder : selection.remainder = []) :
    s.execute m place { selection with remainder := ' ' :: Text.line values } =
      s.execute { m with given := values ++ m.given } place selection := by
  have hrun : s.runSelected m.given { selection with remainder := ' ' :: Text.line values } =
      s.runSelected (values ++ m.given) selection := by
    rw [runSelected, runSelected, values_line values m.given hremainder]
  simp only [execute, hrun]
  rfl

/-- Reading keys has no use for extra values: the next command takes those of the moment. -/
theorem readOn_extra (s : Session) (extra : List Text) (m : Moment) (keys : List Text) :
    ({ s with extra := extra } : Session).readOn m keys = s.readOn m keys := by
  induction keys generalizing m with
  | nil => rfl
  | cons key keys ih =>
      have hpress : ({ s with extra := extra } : Session).press m key = s.press m key := rfl
      rw [readOn, readOn, hpress]
      cases s.press m key with
      | ends ending => rfl
      | goesOn events next => simp only [ih]

theorem resume_extra (s : Session) (extra : List Text) (keys : List Text) (step : Step) :
    ({ s with extra := extra } : Session).resume keys step = s.resume keys step := by
  cases step with
  | ends ending => rfl
  | goesOn events next => rw [resume, resume, readOn_extra]

/-- Keys that select a command run it. -/
theorem replay_of_selected (script : Script) {keys : Text} {selection : Selection}
    (hselected : (Place.start.feed s.config keys).reading = .selected selection) :
    s.replay script keys =
      (s.execute (s.opening script) (Place.start.feed s.config keys).place selection).after
        (walked (Place.start.feed s.config keys)) := by
  simp only [replay, hselected]

/-- Typing keys with a line of values behind them leads where typing the keys leads with these
values in front of the extra ones. -/
theorem replay_line (h : s.config.WellFormed) {keys : Text} {selection : Selection}
    (hselected : (Place.start.feed s.config keys).reading = .selected selection)
    (hremainder : selection.remainder = []) (values : List Text) (script : Script) :
    s.replay script (keys ++ ' ' :: Text.line values) =
      ({ s with extra := values ++ s.extra } : Session).replay script keys := by
  obtain ⟨root, hroot⟩ := h.soundGraph.root
  have hfeed := Place.feed_append_eq_of_selected (p := .start) h hroot hselected
    (' ' :: Text.line values)
  rw [hremainder, List.nil_append] at hfeed
  have hline := congrArg Feed.reading hfeed
  rw [replay_of_selected script hline, hfeed, execute_line values _ hremainder]
  exact (replay_of_selected (s := { s with extra := values ++ s.extra }) script hselected).symm

/-- **Values typed behind the key of a command and values given beside it come to the same.** If
the keys select a command and nothing is left of them, then a session that is started with these
keys, a space and the line of some values is the session that is started with the keys alone and
has these values in front of its extra ones: the same result, at the same place, after the same
events. -/
theorem run_values_behind_key {text : Text} (h : Config.ofText text = .ok s.config) {keys : Text}
    {selection : Selection} (hselected : (Place.start.feed s.config keys).reading =
      .selected selection) (hremainder : selection.remainder = [])
    (values : List Text) (typed : List Text) (script : Script) :
    s.run (some (keys ++ ' ' :: Text.line values)) typed script =
      ({ s with extra := values ++ s.extra } : Session).run (some keys) typed script := by
  have hwell := Config.wellFormed_of_ofText h
  have hne : keys ≠ [] := by
    rintro rfl
    have hwaiting : Place.start.feed s.config [] = ⟨.waiting, .start, []⟩ :=
      Place.settle_of_pending_nil _ rfl
    rw [hwaiting] at hselected
    cases hselected
  have hkeys : (some keys).filter (!·.isEmpty) = some keys := by
    simp [Option.filter, hne]
  have hline : (some (keys ++ ' ' :: Text.line values)).filter (!·.isEmpty) =
      some (keys ++ ' ' :: Text.line values) := by
    simp [Option.filter]
  simp only [run, hkeys, hline]
  rw [replay_line hwell hselected hremainder]
  exact (resume_extra s _ typed _).symm

/-- Values that are empty, hold a quote or break a line, for a command that repeats, with an extra
value beside them. -/
theorem run_values_behind_key_quote :
    ∃ (s : Session) (selection : Selection), Config.ofText
        "menu root \x7b x: cmd \x7b set repeat vars p, q \"y\" \x7d \x7d".toList = .ok s.config ∧
      (Place.start.feed s.config "x".toList).reading = .selected selection ∧
      selection.remainder = [] ∧
      s.run (some ("x ".toList ++ Text.line ["it\x27s".toList, [], "\\\n".toList]))
          ["x".toList] ⟨[], [0, 1]⟩ =
        ({ s with extra := ["it\x27s".toList, [], "\\\n".toList, "z".toList] } : Session).run
          (some "x".toList) ["x".toList] ⟨[], [0, 1]⟩ := by
  obtain ⟨s, selection, hs, hselected, hremainder, hextra⟩ :
      ∃ (s : Session) (selection : Selection), Config.ofText
        "menu root \x7b x: cmd \x7b set repeat vars p, q \"y\" \x7d \x7d".toList = .ok s.config ∧
      (Place.start.feed s.config "x".toList).reading = .selected selection ∧
      selection.remainder = [] ∧ s.extra = ["z".toList] :=
    ⟨⟨⟨⟨none, true⟩, [], [⟨"root".toList, none, [("x".toList, .command
        ⟨[.literal "y".toList], none, false,
          some ⟨true, false, [⟨"p".toList, none⟩, ⟨"q".toList, none⟩], none⟩⟩)]⟩]⟩,
        ⟨[], none⟩, .stay, ["z".toList], true⟩,
      ⟨⟨[.literal "y".toList], none, false,
          some ⟨true, false, [⟨"p".toList, none⟩, ⟨"q".toList, none⟩], none⟩⟩, "x".toList,
        "root".toList, [], []⟩,
      by cbv, by cbv, rfl, rfl⟩
  have hrun := run_values_behind_key hs hselected hremainder
    ["it\x27s".toList, [], "\\\n".toList] ["x".toList] ⟨[], [0, 1]⟩
  rw [hextra] at hrun
  exact ⟨s, selection, hs, hselected, hremainder, hrun⟩

end Session

end KeyMenu
