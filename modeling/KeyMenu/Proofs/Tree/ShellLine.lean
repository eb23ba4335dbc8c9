import KeyMenu.Proofs.Tree.Moved
import KeyMenu.Proofs.Tree.Spacing
import KeyMenu.Proofs.Tree.Stray

/-!
# Bare shell invocations and shell lines

A bare invocation is read with nothing around it: the white space at its ends is dropped, and its
last word or its comment ends with the text. In a shell line the same words stand between the
keyword and the end of the line, and the text goes on.

* `Text.OneLine`: a text whose white space is spaces and tabs, so that it may be part of a line;
* `Text.LineEndsBefore t more`: in `t` the line ends, and `more` stands on the next one;
* `Text.shellLine w e`: the line that asks for the shell `w`;
* `Rule.Repeats.inLine`: the words of a text that goes up to its end are the words of a line;
* `Shell.finds_shellLine_of_parse`: a shell line with a bare invocation behind its keyword has the
  words of the invocation, and nothing else stands on it.
-/

namespace KeyMenu

/-! ### Ends of lines -/

namespace Gap

/-- Where the text behind a gap goes on and no line ends, the gap has no comment. -/
theorem Fills.inline {after g : Text} (h : sameLine.Fills after g) (hafter : after ≠ [])
    (hline : '\n' ∉ g ++ after) : Inline g := by
  induction h with
  | nil => exact fun _ hc => absurd hc List.not_mem_nil
  | space hc _ ih =>
      rw [List.cons_append, List.mem_cons, not_or] at hline
      exact List.forall_mem_cons.2 ⟨hc, ih hline.2⟩
  | @comment body g hbody hend _ _ =>
      obtain ⟨d, rest, hd⟩ :=
        List.exists_cons_of_ne_nil (List.append_ne_nil_of_right_ne_nil g hafter)
      obtain rfl : d = '\n' := hend d (by rw [hd]; rfl)
      rw [List.cons_append, List.append_assoc, hd] at hline
      exact absurd (by simp) hline

end Gap

namespace Text

/-- All white space of the text is spaces and tabs. -/
def OneLine (t : Text) : Prop := ∀ c ∈ t, isBlank c = true → Gap.sameLine.isSpace c = true

/-- A line ends with LF or with CR and LF. -/
def IsLineEnd (e : Text) : Prop := e = ['\n'] ∨ e = ['\r', '\n']

/-- The line that asks for the shell `w`, with its end. -/
def shellLine (w e : Text) : Text := "shell ".toList ++ (w ++ e)

/-- The line comes to its end, and `more` stands on the next one: there are spaces and a comment at
most, and then the line end. -/
def LineEndsBefore (t more : Text) : Prop :=
  ∃ g e, t = g ++ (e ++ more) ∧ Gap.sameLine.Fills (e ++ more) g ∧ IsLineEnd e

variable {t more e : Text}

theorem OneLine.subset {s : Text} (h : t.OneLine) (hs : s ⊆ t) : s.OneLine :=
  fun c hc => h c (hs hc)

/-- None of the characters at which lines end is in the text. -/
theorem OneLine.ne_lineEnd (h : t.OneLine) {c : Char} (hc : c ∈ t) : ¬ (c = '\r' ∨ c = '\n') := by
  rintro (rfl | rfl) <;> exact absurd (h _ hc (by decide)) (by decide)

theorem OneLine.lineFeed_notMem (h : t.OneLine) : '\n' ∉ t :=
  fun hmem => h.ne_lineEnd hmem (.inr rfl)

theorem IsLineEnd.exists_concat (h : IsLineEnd e) : ∃ s, e = s ++ ['\n'] ∧ '\n' ∉ s := by
  rcases h with rfl | rfl
  · exact ⟨[], rfl, List.not_mem_nil⟩
  · exact ⟨['\r'], rfl, by decide⟩

theorem IsLineEnd.fills (h : IsLineEnd e) (after : Text) : Gap.anyLine.Fills after e := by
  rcases h with rfl | rfl
  · exact .space rfl .nil
  · exact .space rfl (.space rfl .nil)

theorem IsLineEnd.head? (h : IsLineEnd e) : ∀ d ∈ (e ++ more).head?, d = '\r' ∨ d = '\n' := by
  intro d hd
  rcases h with rfl | rfl
  · exact .inr (Option.mem_some.1 hd).symm
  · exact .inl (Option.mem_some.1 hd).symm

theorem LineEndsBefore.endsLine (h : LineEndsBefore t more) : t.EndsLine := by
  obtain ⟨g, e, rfl, hfill, he⟩ := h
  exact ⟨g, _, rfl, hfill, he.head?⟩

/-- Spaces, a comment and the line end are a gap in front of the next line. -/
theorem LineEndsBefore.exists_fills (h : LineEndsBefore t more) :
    ∃ g, t = g ++ more ∧ Gap.anyLine.Fills more g := by
  obtain ⟨g, e, rfl, hfill, he⟩ := h
  exact ⟨g ++ e, (List.append_assoc _ _ _).symm, hfill.anyLine.append (he.fills more)⟩

/-- A gap that goes up to the end of its text may be followed by spaces and a line end. If it has a
comment, that goes up to the LF. -/
theorem lineEndsBefore_append {g blanks : Text} (hg : Gap.sameLine.Fills [] g) (hline : '\n' ∉ g)
    (hblanks : Inline blanks) (he : IsLineEnd e) :
    LineEndsBefore (g ++ (blanks ++ (e ++ more))) more := by
  induction hg with
  | nil => exact ⟨blanks, e, rfl, hblanks.fills _, he⟩
  | space hc _ ih =>
      rw [List.mem_cons, not_or] at hline
      obtain ⟨g', e', heq, hfill, he'⟩ := ih hline.2
      exact ⟨_ :: g', e', by rw [List.cons_append, heq, List.cons_append], .space hc hfill, he'⟩
  | @comment body g hbody hend _ _ =>
      obtain rfl : g = [] := by
        by_contra hne
        obtain ⟨d, rest, rfl⟩ := List.exists_cons_of_ne_nil hne
        obtain rfl : d = '\n' := hend d rfl
        exact hline (by simp)
      obtain ⟨s, rfl, hs⟩ := he.exists_concat
      have hbody' : '\n' ∉ body ++ (blanks ++ s) := by
        simp only [List.mem_append, not_or]
        exact ⟨hbody, fun hmem => absurd (hblanks _ hmem) (by decide), hs⟩
      refine ⟨'#' :: (body ++ (blanks ++ s) ++ []), ['\n'], by simp, ?_, .inl rfl⟩
      exact .comment hbody' (fun c hc => (Option.mem_some.1 hc).symm) .nil

end Text

/-- Where a line ends before `more`, only a gap stands in front of `more`. -/
theorem Cursor.sameAhead_of_lineEndsBefore {c d : Cursor} (h : d.rest.LineEndsBefore c.rest) :
    c.SameAhead d := by
  obtain ⟨g, hd, hfill⟩ := h.exists_fills
  obtain ⟨g', rest, hc, hfill', hopen⟩ := c.exists_skips .anyLine
  refine ⟨g', g ++ g', rest, ⟨hc, hfill', hopen⟩, ?_, (hc ▸ hfill).append hfill', hopen⟩
  rw [hd, hc, List.append_assoc]

/-! ### Words -/

namespace Rule

variable {c d next : Cursor} {v s more behind : Text}

/-- Where a word ends, white space may follow. -/
theorem WordAt.append (h : WordAt v s more) (hbehind : ∀ x ∈ behind.head?, isBlank x = true) :
    WordAt v s (more ++ behind) := by
  refine h.imp_right fun ⟨hbare, hmore⟩ => ⟨hbare, fun x hx => ?_⟩
  cases more with
  | nil => exact hbehind x hx
  | cons y more => exact hmore x hx

/-- The words of a text that goes up to its end are found in a line. Spaces may stand around the
text, and the line ends behind them. -/
theorem Repeats.inLine {words : List Text} {before after e next' : Text}
    (h : Repeats shellWord c words next) (hline : c.rest.OneLine)
    (hd : d.rest = before ++ (c.rest ++ (after ++ (e ++ next')))) (hbefore : Inline before)
    (hafter : Inline after) (he : Text.IsLineEnd e) :
    ∃ last, Repeats shellWord d words last ∧ last.rest.LineEndsBefore next' := by
  have hbehind : ∀ x ∈ (after ++ (e ++ next')).head?, isBlank x = true := by
    intro x hx
    cases after with
    | nil => rcases he.head? x hx with rfl | rfl <;> decide
    | cons y after =>
        obtain rfl : y = x := Option.mem_some.1 hx
        exact Gap.isBlank_of_isSpace (hafter _ List.mem_cons_self)
  -- The spaces in front belong to the first word only; the words behind it have none.
  induction h generalizing d before with
  | @done c hm =>
      -- What is left of the text is a gap, for no line ends in it.
      obtain ⟨g, rest, hskip⟩ := c.exists_skips .sameLine
      obtain rfl : rest = [] := by
        by_contra hne
        obtain ⟨x, rest, rfl⟩ := List.exists_cons_of_ne_nil hne
        refine hline.ne_lineEnd ?_ ((misses_shellWord hskip).1 hm x rfl)
        rw [hskip.1]
        simp
      have hc : c.rest = g := by rw [hskip.1, List.append_nil]
      have hend : d.rest.LineEndsBefore next' := by
        rw [hd, hc, ← List.append_assoc]
        refine Text.lineEndsBefore_append ((hbefore.fills _).append hskip.2.1) ?_ hafter he
        rw [List.mem_append, not_or]
        exact ⟨fun hmem => absurd (hbefore _ hmem) (by decide), hc ▸ hline.lineFeed_notMem⟩
      exact ⟨d, .done hend.endsLine.misses_shellWord, hend⟩
  | @again c mid next v words hf _ _ ih =>
      obtain ⟨g, rest, hskip⟩ := c.exists_skips .sameLine
      obtain ⟨s, more, rfl, hword, rfl⟩ := (finds_shellWord hskip).1 hf
      have hmid : ((c.past g).past s).rest = more := Cursor.rest_past hskip.rest_past
      have hg : Inline g := by
        refine hskip.2.1.inline ?_ (hskip.1 ▸ hline.lineFeed_notMem)
        obtain ⟨x, hx, -⟩ := head?_of_wordAt hword
        exact fun hnil => absurd hx (by rw [hnil]; exact nofun)
      have hword' := hword.append hbehind
      have hskip' : d.Skips .sameLine (before ++ g) (s ++ (more ++ (after ++ (e ++ next')))) := by
        refine ⟨?_, (hbefore.fills _).append (hg.fills _), hword'.not_opens⟩
        rw [hd, hskip.1]
        simp only [List.append_assoc]
      have hfinds := (finds_shellWord hskip').2 ⟨s, _, rfl, hword', rfl⟩
      have hmore : more.OneLine := hline.subset fun x hx => by
        rw [hskip.1]
        simp [hx]
      have hrest : ((d.past (before ++ g)).past s).rest =
          [] ++ (((c.past g).past s).rest ++ (after ++ (e ++ next'))) := by
        rw [hmid, Cursor.rest_past hskip'.rest_past, List.nil_append]
      obtain ⟨last, hrepeat, hend⟩ :=
        ih (hmid.symm ▸ hmore) hrest fun x hx => absurd hx List.not_mem_nil
      exact ⟨last, .again hfinds (shortens_shellWord _ _ _ hfinds) hrepeat, hend⟩

end Rule

/-! ### Bare invocations -/

/-- White space is dropped at both ends of a text. -/
theorem Text.exists_eq_strip (t : Text) : ∃ before after, t = before ++ (t.strip ++ after) ∧
    (∀ c ∈ before, isBlank c = true) ∧ ∀ c ∈ after, isBlank c = true := by
  refine ⟨t.takeWhile isBlank, ((t.dropWhile isBlank).reverse.takeWhile isBlank).reverse, ?_,
    fun c hc => Text.of_mem_takeWhile hc,
    fun c hc => Text.of_mem_takeWhile (List.mem_reverse.1 hc)⟩
  rw [strip, ← List.reverse_append, List.takeWhile_append_dropWhile, List.reverse_reverse,
    List.takeWhile_append_dropWhile]

namespace Shell

variable {w e more : Text} {shell : Shell} {c : Cursor}

theorem exists_finds_of_parse (h : parse w = .ok shell) :
    ∃ next, Rule.Finds Rule.shellWords (.start w.strip) shell next := by
  obtain ⟨last, hf⟩ := Rule.finds_of_parse_eq_ok h
  obtain ⟨found, mid, hfound, hf⟩ := Rule.finds_bind.1 hf
  obtain ⟨_, mid', -, hf⟩ := Rule.finds_bind.1 hf
  obtain ⟨rfl, -⟩ := Rule.finds_pure.1 hf
  exact ⟨mid, hfound⟩

/-- An invocation has a program at least. -/
theorem ne_nil_of_parse (h : parse w = .ok shell) : w ≠ [] := by
  rintro rfl
  obtain ⟨next, hf⟩ := exists_finds_of_parse h
  cases Rule.finds_shellWords.1 hf with
  | again _ hlt _ => exact absurd hlt (Nat.not_lt_zero _)

/-- Behind the keyword of a shell line the words of an invocation are found, whatever white space
stands around it, and the line ends. -/
theorem finds_shellWords_of_parse (hw : w.OneLine) (h : parse w = .ok shell)
    (he : Text.IsLineEnd e) (hc : c.rest = ' ' :: (w ++ (e ++ more))) :
    ∃ next, Rule.Finds Rule.shellWords c shell next ∧ next.rest.LineEndsBefore more := by
  obtain ⟨last, hfound⟩ := exists_finds_of_parse h
  obtain ⟨before, after, hstrip, hbefore, hafter⟩ := w.exists_eq_strip
  have hrest : c.rest = (' ' :: before) ++ (w.strip ++ (after ++ (e ++ more))) := by
    rw [hc, List.cons_append]
    refine congrArg (' ' :: ·) ((congrArg (· ++ (e ++ more)) hstrip).trans ?_)
    simp only [List.append_assoc]
  have hline : ∀ x, x ∈ before ∨ x ∈ w.strip ∨ x ∈ after → isBlank x = true →
      Gap.sameLine.isSpace x = true := fun x hx => hw x <| by
    rw [hstrip]
    simpa using hx
  have hinline : Inline (' ' :: before) := List.forall_mem_cons.2
    ⟨rfl, fun x hx => hline x (.inl hx) (hbefore x hx)⟩
  obtain ⟨next, hrepeat, hend⟩ := (Rule.finds_shellWords.1 hfound).inLine
    (fun x hx => hline x (.inr (.inl hx))) hrest hinline
    (fun x hx => hline x (.inr (.inr hx)) (hafter x hx)) he
  exact ⟨next, Rule.finds_shellWords.2 hrepeat, hend⟩

/-- A shell line with an invocation behind its keyword asks for the shell of the invocation, and the
line ends. -/
theorem finds_shellLine_of_parse (hw : w.OneLine) (h : parse w = .ok shell)
    (he : Text.IsLineEnd e) (hc : c.rest = w.shellLine e ++ more) :
    ∃ next, Rule.Finds Rule.shellLine c ⟨shell, c.pos⟩ next ∧ next.rest.LineEndsBefore more := by
  have hrest : c.rest = "shell".toList ++ (' ' :: (w ++ (e ++ more))) := by
    simp [hc, Text.shellLine]
  have hskip : c.Skips .anyLine [] ("shell".toList ++ (' ' :: (w ++ (e ++ more)))) :=
    ⟨hrest, .nil, rfl⟩
  have hword : Rule.Finds (Rule.keyword "shell".toList) c () (c.past "shell".toList) :=
    (Rule.finds_keyword hskip).2 ⟨_, rfl, fun x hx => Option.mem_some.1 hx ▸ rfl, rfl⟩
  obtain ⟨next, hwords, hend⟩ :=
    finds_shellWords_of_parse hw h he (c := c.past "shell".toList) (Cursor.rest_past hskip.1)
  refine ⟨next, ?_, hend⟩
  rw [Rule.shellLine, Rule.finds_skip_bind hskip, Rule.finds_here_bind]
  exact hword.bind (hwords.bind (Rule.finds_pure.2 ⟨rfl, rfl⟩))

/-- No other shell is found there. -/
theorem eq_of_finds_shellLine (hw : w.OneLine) (h : parse w = .ok shell) (he : Text.IsLineEnd e)
    {g : Text} (hskip : c.Skips .anyLine g (w.shellLine e ++ more))
    {line : Tree.ShellLine} {next : Cursor} (hf : Rule.Finds Rule.shellLine c line next) :
    line = ⟨shell, (c.past g).pos⟩ := by
  obtain ⟨next', hline, -⟩ := finds_shellLine_of_parse hw h he hskip.rest_past
  rw [Rule.shellLine, Rule.finds_skip_bind hskip] at hf
  rw [Rule.shellLine, Rule.finds_skip_bind hskip.again, Cursor.past_nil] at hline
  exact (hf.unique hline).1

end Shell

end KeyMenu
