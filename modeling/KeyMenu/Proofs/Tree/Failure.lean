import KeyMenu.Proofs.Text.Line
import KeyMenu.Proofs.Text.Order
import KeyMenu.Proofs.Tree.Reading
import KeyMenu.Proofs.Tree.Within
import Mathlib

/-!
# Where reading fails

A file that is refused is refused at a place: the furthest one at which anything was looked for in
vain. The error gives its line and column, everything that was looked for there, and a line of the
text. Line and column count LF alone, and the line is taken from the text cut at every break, so
that it is the line of the place as long as no other break comes into play.

* `Expectation.furthestPos_eq`, `Expectation.mem_wanted`: the furthest place and what was looked for
  there;
* `Rule.Speaks`: a rule that finds nothing has looked for something;
* `SyntaxError.sourceLine_ofNotes`: which line is shown;
* `Tree.File.located_of_parse`: the main theorem.
-/

namespace KeyMenu

/-! ### The furthest place -/

namespace Expectation

variable {text what : Text} {notes : List Expectation} {e : Expectation}

theorem le_furthest_iff {n : Nat} : n ≤ furthest notes ↔ n = 0 ∨ ∃ e ∈ notes, n ≤ e.offset := by
  rw [furthest, ← List.foldl_map, le_foldl_max_iff, Nat.le_zero]
  simp only [List.mem_map, exists_exists_and_eq_and]

theorem le_furthest (he : e ∈ notes) : e.offset ≤ furthest notes :=
  le_furthest_iff.2 (.inr ⟨e, he, le_rfl⟩)

theorem exists_mem_furthest (h : notes ≠ []) : ∃ e ∈ notes, e.offset = furthest notes := by
  rcases le_furthest_iff.1 (Nat.le_refl (furthest notes)) with hzero | ⟨e, he, hle⟩
  · -- nothing lies further than the beginning, and all notes lie there
    obtain ⟨e, he⟩ := List.exists_mem_of_ne_nil notes h
    exact ⟨e, he, le_antisymm (le_furthest he) (hzero.trans_le (Nat.zero_le _))⟩
  · exact ⟨e, he, le_antisymm (le_furthest he) hle⟩

theorem mem_atFurthest : e ∈ atFurthest notes ↔ e ∈ notes ∧ e.offset = furthest notes := by
  rw [atFurthest, List.mem_filter, beq_iff_eq]

theorem atFurthest_ne_nil (h : notes ≠ []) : atFurthest notes ≠ [] := by
  obtain ⟨e, he, heq⟩ := exists_mem_furthest h
  exact List.ne_nil_of_mem (mem_atFurthest.2 ⟨he, heq⟩)

/-- Where all notes lie in a text, the furthest place does. -/
theorem furthest_le_length (h : ∀ e ∈ notes, e.Within text) (hne : notes ≠ []) :
    furthest notes ≤ text.length := by
  obtain ⟨e, he, heq⟩ := exists_mem_furthest hne
  exact heq ▸ (h e he).le_length

theorem furthestPos_eq (h : ∀ e ∈ notes, e.Within text) (hne : notes ≠ []) :
    furthestPos notes = .behind (text.take (furthest notes)) := by
  rw [furthestPos]
  split
  · rename_i hnil
    exact absurd hnil (atFurthest_ne_nil hne)
  · rename_i e _ hcons
    obtain ⟨he, heq⟩ := mem_atFurthest.1 (hcons ▸ List.mem_cons_self : e ∈ atFurthest notes)
    rw [← heq, (h e he).pos]

/-! ### What was looked for there -/

/-- What was looked for is named as it is, as there was something. -/
theorem wanted_eq (hne : notes ≠ []) :
    wanted notes = Text.sortedSet ((atFurthest notes).map (·.what)) := by
  rw [wanted]
  split
  · rename_i hnil
    obtain ⟨e, he⟩ := List.exists_mem_of_ne_nil _ (atFurthest_ne_nil hne)
    have hwhat := Text.mem_sortedSet.2 (List.mem_map_of_mem (f := (·.what)) he)
    rw [hnil] at hwhat
    exact absurd hwhat List.not_mem_nil
  · rfl

theorem mem_wanted (hne : notes ≠ []) :
    what ∈ wanted notes ↔ ∃ e ∈ notes, e.offset = furthest notes ∧ e.what = what := by
  simp only [wanted_eq hne, Text.mem_sortedSet, List.mem_map, mem_atFurthest, and_assoc]

theorem pairwise_wanted (hne : notes ≠ []) :
    (wanted notes).Pairwise fun s t => Text.le s t = true ∧ s ≠ t :=
  wanted_eq hne ▸ Text.pairwise_sortedSet _

theorem wanted_ne_nil (hne : notes ≠ []) : wanted notes ≠ [] := by
  obtain ⟨e, he, heq⟩ := exists_mem_furthest hne
  exact List.ne_nil_of_mem ((mem_wanted hne).2 ⟨e, he, heq, rfl⟩)

end Expectation

/-! ### Something has been looked for -/

namespace Outcome

variable {α β : Type} {o : Outcome α} {committed : Bool}

/-- What was looked for in vain. -/
def notes : Outcome α → List Expectation
  | .found _ _ notes => notes
  | .absent notes => notes
  | .failed notes => notes
  | .strayBlank => []

/-- There is no value, and nothing has been looked for. -/
def mute : Bool → Outcome α
  | false => .absent []
  | true => .failed []

theorem eq_mute_of_after {earlier : List Expectation} (h : o.after earlier = mute committed) :
    o = mute committed := by
  cases committed <;> cases o <;> simp_all [after, mute]

end Outcome

namespace Rule

variable {α β : Type} {r s : Rule α} {committed : Bool}

/-- Where the rule does not begin, or cannot be finished if it is `committed`, something has been
looked for. -/
def Speaks (committed : Bool) {α : Type} (r : Rule α) : Prop := ∀ c, r c ≠ .mute committed

theorem speaks_of_found (h : ∀ c, ∃ a next notes, r c = .found a next notes) :
    Speaks committed r := by
  intro c hmute
  obtain ⟨a, next, notes, hfound⟩ := h c
  rw [hfound] at hmute
  cases committed <;> cases hmute

theorem speaks_pure (a : α) : Speaks committed (pure a : Rule α) :=
  speaks_of_found fun c => ⟨a, c, [], rfl⟩

theorem speaks_skip (gap : Gap) : Speaks committed (skip gap) :=
  speaks_of_found fun _ => ⟨_, _, _, rfl⟩

theorem speaks_here : Speaks committed here := speaks_of_found fun _ => ⟨_, _, _, rfl⟩

theorem speaks_rest : Speaks committed rest := speaks_of_found fun _ => ⟨_, _, _, rfl⟩

theorem speaks_advance (taken : Text) : Speaks committed (advance taken) :=
  speaks_of_found fun _ => ⟨_, _, _, rfl⟩

theorem speaks_expect (what : Text) : Speaks committed (expect what : Rule α) := by
  intro c h
  cases committed <;> cases h

theorem speaks_unclosed (closing : Text) : Speaks committed (unclosed closing : Rule α) := by
  intro c h
  cases committed <;> cases h

/-- Where a rule does not begin, it can be finished. -/
theorem speaks_failure : Speaks true (failure : Rule α) := by
  intro c h
  cases h

theorem Speaks.bind {f : α → Rule β} (hr : Speaks committed r)
    (hf : ∀ a, Speaks committed (f a)) : Speaks committed (r >>= f) := by
  intro c h
  have hrc := hr c
  rw [bind_apply] at h
  cases hc : r c with
  | found a mid notes =>
      simp only [hc, Outcome.andThen] at h
      exact hf a mid (Outcome.eq_mute_of_after h)
  | absent _ | failed _ | strayBlank =>
      rw [hc] at h hrc
      cases committed <;> cases h <;> exact hrc rfl

theorem Speaks.orElse (hr : Speaks true r) (hs : Speaks committed s) :
    Speaks committed (r <|> s) := by
  intro c h
  have hrc := hr c
  rw [orElse_apply] at h
  cases hc : r c with
  | absent notes =>
      simp only [hc] at h
      exact hs c (Outcome.eq_mute_of_after h)
  | found _ _ _ | failed _ | strayBlank =>
      rw [hc] at h hrc
      cases committed <;> cases h <;> exact hrc rfl

/-- A rule that must be finished and does not begin has failed for what was looked for then. -/
theorem Speaks.commit (habsent : Speaks false r) (hfailed : Speaks true r) :
    Speaks committed (commit r) := by
  intro c h
  rw [commit_apply] at h
  cases hc : r c with
  | absent notes =>
      rw [hc] at h
      obtain rfl : notes = [] := by
        cases committed <;> cases h
        rfl
      exact habsent c hc
  | failed notes =>
      rw [hc] at h
      obtain rfl : notes = [] := by
        cases committed <;> cases h
        rfl
      exact hfailed c hc
  | found _ _ _ | strayBlank =>
      rw [hc] at h
      cases committed <;> cases h

/-- A repetition always begins, so that only a value that cannot be finished stops it. -/
theorem speaks_many (hr : Speaks true r) : Speaks committed (many r) := by
  intro c h
  fun_induction many r c with
  | case1 c a next notes _ _ ih =>
      have h := Outcome.eq_mute_of_after h
      cases hm : many r next with
      | found _ _ _ =>
          rw [hm] at h
          cases committed <;> cases h
      | absent _ | failed _ | strayBlank =>
          rw [hm] at h ih
          exact ih h
  | case2 | case3 => cases committed <;> cases h
  | case4 c notes hrc =>
      cases committed <;> cases h
      exact hr c hrc
  | case5 => cases committed <;> cases h

theorem speaks_keyword (word : Text) : Speaks committed (keyword word) := by
  refine (speaks_skip _).bind fun _ => speaks_rest.bind fun text => ?_
  split
  · exact speaks_advance _
  · exact speaks_expect _

theorem speaks_stringHere : Speaks true stringHere := by
  refine speaks_rest.bind fun text => ?_
  have htaken (taken value : Text) : Speaks true (do advance taken; return value : Rule Text) :=
    (speaks_advance taken).bind fun _ => speaks_pure value
  split
  · split
    · exact htaken _ _
    · exact speaks_unclosed _
  · split
    · split
      · exact htaken _ _
      · exact speaks_unclosed _
    · exact speaks_failure

theorem speaks_shellWord : Speaks true shellWord := by
  refine (speaks_skip _).bind fun _ => speaks_rest.bind fun text => ?_
  split
  · exact speaks_failure
  · split
    · exact speaks_failure
    · refine speaks_stringHere.orElse ?_
      dsimp only
      split
      · exact fun c h => nomatch h
      · exact (speaks_advance _).bind fun _ => speaks_pure _

theorem speaks_shellWords : Speaks committed shellWords := by
  refine (speaks_many speaks_shellWord).bind fun words => ?_
  split
  · exact speaks_pure _
  · exact (speaks_skip _).bind fun _ => (speaks_expect _).commit (speaks_expect _)

theorem speaks_setting : Speaks committed setting := by
  have hshell {committed : Bool} : Speaks committed shellLine :=
    (speaks_skip _).bind fun _ => speaks_here.bind fun _ => (speaks_keyword _).bind fun _ =>
      speaks_shellWords.bind fun _ => speaks_pure _
  have hword {committed : Bool} (word : Text) (value : Tree.Setting) :
      Speaks committed (do keyword word; return value : Rule Tree.Setting) :=
    (speaks_keyword word).bind fun _ => speaks_pure value
  have hecho : Speaks committed echoSetting :=
    (speaks_skip _).bind fun _ => speaks_here.bind fun _ => (speaks_keyword _).bind fun _ =>
      ((hword _ _).orElse (hword _ _)).commit ((hword _ _).orElse (hword _ _))
  exact (hshell.bind fun _ => speaks_pure _).orElse hecho

variable {f : α → Rule β} {c : Cursor}

/-- What has been looked for is not forgotten. -/
theorem notes_bind_ne_nil (hr : r c ≠ .strayBlank → (r c).notes ≠ [])
    (hstray : (r >>= f) c ≠ .strayBlank) : ((r >>= f) c).notes ≠ [] := by
  rw [bind_apply] at hstray ⊢
  cases hc : r c with
  | found a mid notes =>
      have hnotes := hr (by simp [hc])
      rw [hc] at hnotes
      simp only [hc, Outcome.andThen] at hstray ⊢
      cases hf : f a mid with
      | strayBlank => exact absurd (by rw [hf]; rfl) hstray
      | found _ _ _ | absent _ | failed _ => exact List.append_ne_nil_of_left_ne_nil hnotes _
  | absent _ | failed _ =>
      have hnotes := hr (by simp [hc])
      rwa [hc] at hnotes
  | strayBlank => exact absurd (by rw [hc]; rfl) hstray

/-- A repetition looks for one value more than it finds. -/
theorem notes_many_ne_nil (habsent : Speaks false r) (hfailed : Speaks true r)
    (hshort : Shortens r) (hstray : many r c ≠ .strayBlank) : (many r c).notes ≠ [] := by
  fun_induction many r c with
  | case1 c a next notes _ _ ih =>
      cases hm : many r next with
      | strayBlank => exact absurd (by rw [hm]; rfl) hstray
      | found _ _ _ | absent _ | failed _ =>
          have hmore := ih (by simp [hm])
          rw [hm] at hmore
          simpa [Outcome.andThen, Outcome.after, Outcome.notes] using fun _ => hmore
  | case2 c a next notes hrc hnot => exact absurd (hshort _ _ _ ⟨notes, hrc⟩) hnot
  | case3 c notes hrc =>
      rintro rfl
      exact habsent c hrc
  | case4 c notes hrc =>
      rintro rfl
      exact hfailed c hrc
  | case5 => exact absurd rfl hstray

/-- Reading a file, successful or not, looks for something in vain. -/
theorem notes_file_ne_nil (hstray : file c ≠ .strayBlank) : (file c).notes ≠ [] :=
  notes_bind_ne_nil (notes_many_ne_nil speaks_setting speaks_setting shortens_setting) hstray

end Rule

/-! ### Line and column -/

namespace Position

variable {text : Text} {p q : Nat}

theorem line_behind_sub_one (before : Text) : (behind before).line - 1 = before.count '\n' := rfl

theorem column_behind_take_sub_one (text : Text) (p : Nat) :
    (behind (text.take p)).column - 1 = (text.lineBefore p).length := by
  rw [Text.lineBefore, List.length_reverse]
  rfl

/-- The column is where the line goes on. -/
theorem drop_column_lineAround (text : Text) (p : Nat) :
    (text.lineAround p).drop ((behind (text.take p)).column - 1) =
      (text.drop p).takeWhile (· ≠ '\n') := by
  rw [column_behind_take_sub_one, Text.lineAround, List.drop_left]

theorem eq_of_behind_take_of_le (hq : q ≤ text.length) (hle : p ≤ q)
    (h : behind (text.take p) = behind (text.take q)) : p = q := by
  obtain ⟨mid, hmid⟩ := List.take_prefix_take_left hle (l := text)
  rw [← hmid] at h
  have hline : mid.count '\n' = 0 := by
    have hlines := congrArg line h
    simp only [behind, List.count_append] at hlines
    omega
  have hplain : ∀ c ∈ mid.reverse, decide (c ≠ '\n') = true := fun c hc =>
    decide_eq_true fun heq =>
      List.count_eq_zero.1 hline (heq ▸ List.mem_reverse.1 hc)
  have hcolumn := congrArg column h
  simp only [behind, List.reverse_append, List.takeWhile_append_of_pos hplain, List.length_append,
    List.length_reverse] at hcolumn
  have hlength := congrArg List.length hmid
  rw [List.length_append, List.length_take_of_le (hle.trans hq), List.length_take_of_le hq]
    at hlength
  omega

/-- Different places have different positions. -/
theorem eq_of_behind_take (hp : p ≤ text.length) (hq : q ≤ text.length)
    (h : behind (text.take p) = behind (text.take q)) : p = q := by
  rcases Nat.le_total p q with hle | hle
  · exact eq_of_behind_take_of_le hq hle h
  · exact (eq_of_behind_take_of_le hp hle h.symm).symm

end Position

/-! ### The line that is shown -/

namespace SyntaxError

variable {text : Text} {notes : List Expectation} {p : Nat}

theorem sourceLine_ofNotes (text : Text) (notes : List Expectation) :
    (ofNotes text notes).sourceLine =
      text.allPieces[(ofNotes text notes).pos.line - 1]?.getD [] := Text.getElem?_lines _ _

/-- As long as only line feeds end lines, the line shown is the one around the place. -/
theorem sourceLine_of_unbroken (hpos : (ofNotes text notes).pos = .behind (text.take p))
    (h : ∀ line ∈ (text.splitOn '\n').take (ofNotes text notes).pos.line, Text.Unbroken line) :
    (ofNotes text notes).sourceLine = (text.lineAround p).dropCR := by
  rw [hpos] at h
  rw [sourceLine_ofNotes, hpos, Position.line_behind_sub_one, Text.allPieces,
    Text.getElem?_flatMap_pieces h, Text.getElem?_splitOn]
  rfl

/-- No line with another break in it is ever shown. -/
theorem sourceLine_ne_of_broken {line : Text} (h : ¬ line.Unbroken) :
    (ofNotes text notes).sourceLine ≠ line.dropCR := by
  intro hline
  refine h fun c hc => ?_
  rw [← hline] at hc
  simp only [ofNotes] at hc
  cases hshown : (Text.lines text)[(Expectation.furthestPos notes).line - 1]? with
  | none =>
      rw [hshown] at hc
      exact absurd hc List.not_mem_nil
  | some shown =>
      rw [hshown] at hc
      exact Text.unbroken_of_mem_lines (List.mem_of_getElem? hshown) c hc

/-- The message ends in the line shown, if it is not empty, and under it in a caret behind as many
blanks as there are code points before the place on its line. -/
theorem exists_message_eq (hpos : (ofNotes text notes).pos = .behind (text.take p))
    (h : (ofNotes text notes).sourceLine ≠ []) :
    ∃ head, (ofNotes text notes).message =
      head ++ ("\n  ".toList ++ (ofNotes text notes).sourceLine ++
        ("\n  ".toList ++ List.replicate (text.lineBefore p).length ' ' ++ ['^'])) := by
  have hcolumn := Position.column_behind_take_sub_one text p
  rw [← hpos] at hcolumn
  refine ⟨(ofNotes text notes).pos.toText ++ ": syntax error, expected ".toList ++
    wording (ofNotes text notes).expected, ?_⟩
  have hpath : (ofNotes text notes).path = none := rfl
  simp only [message, hpath, List.isEmpty_iff, if_neg h, hcolumn]
  simp

end SyntaxError

/-! ### Refused files -/

/-- A file is refused for what was looked for in vain, and all of it lies in its text. -/
theorem Tree.File.eq_ofNotes_of_parse {text : Text} {e : SyntaxError}
    (h : Tree.File.parse text = .error (.grammar e)) :
    e = .ofNotes text (Rule.file (.start text)).notes ∧
      (Rule.file (.start text)).notes ≠ [] ∧
      ∀ x ∈ (Rule.file (.start text)).notes, x.Within text := by
  have hkeeps := Rule.keeps_file (.start text) (Cursor.within_start text)
  have hne := Rule.notes_file_ne_nil (c := .start text)
  rw [Tree.File.parse, Rule.parse] at h
  cases hfile : Rule.file (.start text) with
  | found _ _ _ | strayBlank =>
      rw [hfile] at h
      cases h
  | absent notes =>
      rw [hfile] at h hkeeps hne
      cases h
      cases hkeeps with
      | absent hnotes => exact ⟨rfl, hne (by simp), hnotes⟩
  | failed notes =>
      rw [hfile] at h hkeeps hne
      cases h
      cases hkeeps with
      | failed hnotes => exact ⟨rfl, hne (by simp), hnotes⟩

/-- **A file that is refused is refused at the furthest place that was looked at.** Its line and
column, counted by line feeds, belong to that place and to no other, and the expectations are all
that was looked for there, in code point order and each once. Behind the column the line goes on
with the text at the place, and the caret of the message stands there. The line shown is found by
cutting the text at every break. It is the line of the place, a CR at its end aside, where no line
up to it contains a break, and it is never that line where that line contains one. -/
theorem Tree.File.located_of_parse {text : Text} {e : SyntaxError}
    (h : Tree.File.parse text = .error (.grammar e)) :
    ∃ p ≤ text.length,
      e.pos = .behind (text.take p) ∧
      (∀ q ≤ text.length, e.pos = .behind (text.take q) → q = p) ∧
      (∀ x ∈ (Rule.file (.start text)).notes, x.offset ≤ p) ∧
      (∀ what, what ∈ e.expected ↔
        ∃ x ∈ (Rule.file (.start text)).notes, x.offset = p ∧ x.what = what) ∧
      e.expected ≠ [] ∧
      (e.expected.Pairwise fun s t => Text.le s t = true ∧ s ≠ t) ∧
      (text.lineAround p).drop (e.pos.column - 1) = (text.drop p).takeWhile (· ≠ '\n') ∧
      (e.sourceLine ≠ [] → ∃ head, e.message = head ++ ("\n  ".toList ++ e.sourceLine ++
        ("\n  ".toList ++ List.replicate (text.lineBefore p).length ' ' ++ ['^']))) ∧
      e.sourceLine = text.allPieces[e.pos.line - 1]?.getD [] ∧
      ((∀ line ∈ (text.splitOn '\n').take e.pos.line, Text.Unbroken line) →
        e.sourceLine = (text.lineAround p).dropCR) ∧
      (¬ (text.lineAround p).Unbroken → e.sourceLine ≠ (text.lineAround p).dropCR) := by
  obtain ⟨rfl, hne, hwithin⟩ := Tree.File.eq_ofNotes_of_parse h
  generalize (Rule.file (.start text)).notes = notes at hwithin hne ⊢
  have hle := Expectation.furthest_le_length hwithin hne
  have hpos : (SyntaxError.ofNotes text notes).pos =
      .behind (text.take (Expectation.furthest notes)) := Expectation.furthestPos_eq hwithin hne
  refine ⟨_, hle, hpos, ?_, fun _ => Expectation.le_furthest, fun _ => Expectation.mem_wanted hne,
    Expectation.wanted_ne_nil hne, Expectation.pairwise_wanted hne, ?_,
    SyntaxError.exists_message_eq hpos, SyntaxError.sourceLine_ofNotes _ _, SyntaxError.sourceLine_of_unbroken hpos,
    SyntaxError.sourceLine_ne_of_broken⟩
  · exact fun q hq hqpos => Position.eq_of_behind_take hq hle (hqpos.symm.trans hpos)
  · rw [hpos, Position.drop_column_lineAround]

/-- A colon is missing on a line that ends in CR and LF. -/
theorem Tree.File.located_of_parse_crlf :
    ∃ (text : Text) (e : SyntaxError), text = "menu root \x7b\r\n  a \"x\"\r\n\x7d".toList ∧
      Tree.File.parse text = .error (.grammar e) ∧
      e = ⟨⟨2, 5⟩, [Rule.shown [':']], "  a \"x\"".toList, none⟩ ∧
      17 ≤ text.length ∧ e.pos = .behind (text.take 17) ∧
      (∀ x ∈ (Rule.file (.start text)).notes, x.offset ≤ 17) ∧
      (∃ x ∈ (Rule.file (.start text)).notes, x.offset = 17 ∧ x.what = Rule.shown [':']) ∧
      (text.lineAround 17).drop (e.pos.column - 1) = (text.drop 17).takeWhile (· ≠ '\n') ∧
      e.sourceLine = (text.lineAround 17).dropCR := by
  obtain ⟨text, e, htext, hparse, he, hlength, hplace, hlines⟩ :
      ∃ (text : Text) (e : SyntaxError),
      text = "menu root \x7b\r\n  a \"x\"\r\n\x7d".toList ∧
        Tree.File.parse text = .error (.grammar e) ∧
        e = ⟨⟨2, 5⟩, [Rule.shown [':']], "  a \"x\"".toList, none⟩ ∧
        17 ≤ text.length ∧ e.pos = .behind (text.take 17) ∧
        (text.splitOn '\n').take e.pos.line =
          ["menu root \x7b\r".toList, "  a \"x\"\r".toList] :=
    ⟨_, _, rfl, by cbv, rfl, by decide, by cbv, by cbv⟩
  have hunbroken : ∀ line ∈ (text.splitOn '\n').take e.pos.line, Text.Unbroken line := by
    rw [hlines]
    simp [Text.Unbroken, Text.dropCR, isLineBreak]
  obtain ⟨p, -, hpos, hunique, hfurthest, hexpected, -, -, hcolumn, -, -, hline, -⟩ :=
    Tree.File.located_of_parse hparse
  obtain rfl : 17 = p := hunique 17 hlength hplace
  have hcolon := (hexpected (Rule.shown [':'])).1 (by simp [he])
  exact ⟨text, e, htext, hparse, he, hlength, hpos, hfurthest, hcolon, hcolumn, hline hunbroken⟩

/-- The line separator in the comment ends no line that is counted, but it ends one that is shown.
So the rest of the comment stands over the caret in place of the line without a colon. -/
theorem Tree.File.parse_line_separator :
    ∃ (text : Text) (e : SyntaxError), text = "# a\u2028b\nmenu root \x7b a \"x\" \x7d".toList ∧
      Tree.File.parse text = .error (.grammar e) ∧ e.sourceLine = "b".toList ∧
      ∀ p ≤ text.length, e.pos = .behind (text.take p) →
        e.sourceLine ≠ (text.lineAround p).dropCR := by
  refine ⟨_, ⟨⟨2, 15⟩, [Rule.shown [':']], "b".toList, none⟩, rfl, by cbv, rfl,
    fun p hp hpos => ?_⟩
  obtain rfl : p = 20 := Position.eq_of_behind_take hp (by decide) (hpos.symm.trans (by cbv))
  decide

end KeyMenu
