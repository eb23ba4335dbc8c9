import KeyMenu.Proofs.Tree.Reading
import KeyMenu.Proofs.Tree.Unplaced

/-!
# The same text at another place

Where a text stands is kept as positions and decides nothing. From two cursors in front of one text
a rule goes the same way, finds values that agree up to positions and leaves the same text. Rules
that begin with a gap do so even if the gaps in front of the cursors differ.

* `Outcome.Agrees bare`: outcomes of one kind; values agree as far as `bare` sees them;
* `Cursor.SameRest`, `Cursor.SameAhead`: cursors in front of one text, and cursors that are so once
  a gap has been skipped;
* `Rule.Agrees near bare r s`: from cursors that are near each other the rules have outcomes that
  agree; one lemma for each way of putting rules together and for each rule of the grammar;
* `Rule.Repeats.moved`: a repetition finds the same behind another gap;
* `Rule.finds_file_behind`: a file that is read is read behind one more setting.
-/

namespace KeyMenu

/-! ### Cursors and outcomes -/

namespace Cursor

/-- The cursors stand in front of one text. -/
def SameRest (c d : Cursor) : Prop := c.rest = d.rest

/-- Once a gap has been skipped, the cursors stand in front of one text. -/
def SameAhead (c d : Cursor) : Prop :=
  ∃ g h rest, c.Skips .anyLine g rest ∧ d.Skips .anyLine h rest

variable {c d : Cursor}

theorem SameRest.past (h : c.SameRest d) (taken : Text) : (c.past taken).SameRest (d.past taken) :=
  congrArg (List.drop taken.length) h

theorem SameRest.ahead (h : c.SameRest d) : c.SameAhead d := by
  obtain ⟨g, rest, hc⟩ := c.exists_skips .anyLine
  exact ⟨g, g, rest, hc, h.symm.trans hc.1, hc.2⟩

end Cursor

/-- The outcomes are of one kind. Values agree as far as `bare` sees them, and the text behind them
is the same. -/
inductive Outcome.Agrees {α β : Type} (bare : α → β) : Outcome α → Outcome α → Prop
  | found {a b : α} {next next' : Cursor} {notes notes' : List Expectation}
      (hvalue : bare a = bare b) (hnext : next.SameRest next') :
      Agrees bare (.found a next notes) (.found b next' notes')
  | absent {notes notes' : List Expectation} : Agrees bare (.absent notes) (.absent notes')
  | failed {notes notes' : List Expectation} : Agrees bare (.failed notes) (.failed notes')
  | strayBlank : Agrees bare .strayBlank .strayBlank

namespace Outcome.Agrees

variable {α α' β β' : Type} {bare : α → β} {bare' : α' → β'} {o o' : Outcome α}

theorem after (h : o.Agrees bare o') (earlier earlier' : List Expectation) :
    (o.after earlier).Agrees bare (o'.after earlier') := by
  cases h with
  | found hvalue hnext => exact .found hvalue hnext
  | absent => exact .absent
  | failed => exact .failed
  | strayBlank => exact .strayBlank

theorem andThen {f g : α → Cursor → Outcome α'} (h : o.Agrees bare o')
    (hf : ∀ a b, bare a = bare b → ∀ c d : Cursor, c.SameRest d → (f a c).Agrees bare' (g b d)) :
    (o.andThen f).Agrees bare' (o'.andThen g) := by
  cases h with
  | found hvalue hnext => exact (hf _ _ hvalue _ _ hnext).after _ _
  | absent => exact .absent
  | failed => exact .failed
  | strayBlank => exact .strayBlank

variable {a : α} {next : Cursor} {notes : List Expectation}

theorem exists_found (h : (Outcome.found a next notes).Agrees bare o) :
    ∃ b next' notes', o = .found b next' notes' ∧ bare a = bare b ∧ next.SameRest next' := by
  cases h with
  | found hvalue hnext => exact ⟨_, _, _, rfl, hvalue, hnext⟩

theorem exists_absent (h : (Outcome.absent notes).Agrees bare o) :
    ∃ notes', o = .absent notes' := by
  cases h with
  | absent => exact ⟨_, rfl⟩

theorem exists_failed (h : (Outcome.failed notes).Agrees bare o) :
    ∃ notes', o = .failed notes' := by
  cases h with
  | failed => exact ⟨_, rfl⟩

theorem eq_strayBlank (h : Outcome.strayBlank.Agrees bare o) : o = .strayBlank := by
  cases h with
  | strayBlank => rfl

end Outcome.Agrees

namespace Rule

open Cursor (SameRest SameAhead)

/-- From cursors that are near each other the rules have outcomes that agree. -/
def Agrees (near : Cursor → Cursor → Prop) {α β : Type} (bare : α → β) (r s : Rule α) : Prop :=
  ∀ c d, near c d → (r c).Agrees bare (s d)

variable {near : Cursor → Cursor → Prop} {α α' β β' : Type} {bare : α → β} {bare' : α' → β'}
  {r s : Rule α} {f g : α → Rule α'}

/-! ### Ways of putting rules together -/

theorem Agrees.bind (h : Agrees near bare r s)
    (hf : ∀ a b, bare a = bare b → Agrees SameRest bare' (f a) (g b)) :
    Agrees near bare' (r >>= f) (s >>= g) := fun c d hcd => (h c d hcd).andThen hf

theorem agrees_pure {a b : α} (h : bare a = bare b) :
    Agrees SameRest bare (pure a : Rule α) (pure b) := fun _ _ hcd => .found h hcd

/-- What a construct contains, once the construct has been read. -/
theorem Agrees.map (h : Agrees near bare r s) {u v : α → α'}
    (hu : ∀ a b, bare a = bare b → bare' (u a) = bare' (v b)) :
    Agrees near bare' (do return u (← r)) (do return v (← s)) :=
  h.bind fun a b hab => agrees_pure (hu a b hab)

theorem agrees_failure : Agrees near bare (failure : Rule α) failure := fun _ _ _ => .absent

theorem agrees_expect (what : Text) : Agrees near bare (expect what : Rule α) (expect what) :=
  fun _ _ _ => .absent

theorem agrees_unclosed (closing : Text) :
    Agrees near bare (unclosed closing : Rule α) (unclosed closing) := fun _ _ _ => .failed

theorem agrees_here : Agrees SameRest (fun _ => ()) here here := fun _ _ hcd => .found rfl hcd

theorem agrees_rest : Agrees SameRest id rest rest := fun _ _ hcd => .found hcd hcd

theorem agrees_advance (taken : Text) : Agrees SameRest id (advance taken) (advance taken) :=
  fun _ _ hcd => .found rfl (hcd.past taken)

/-- What follows may depend on the text that is still to be read. -/
theorem agrees_rest_bind {f g : Text → Rule α}
    (h : ∀ text, Agrees SameRest bare (f text) (g text)) :
    Agrees SameRest bare (Rule.rest >>= f) (Rule.rest >>= g) :=
  agrees_rest.bind fun text text' htext => by
    obtain rfl : text = text' := htext
    exact h text

theorem Agrees.orElse {r' s' : Rule α} (h : Agrees near bare r s) (h' : Agrees near bare r' s') :
    Agrees near bare (r <|> r') (s <|> s') := fun c d hcd => by
  have hout := h c d hcd
  rw [orElse_apply, orElse_apply]
  generalize r c = o at hout
  generalize s d = o' at hout
  cases hout with
  | absent => exact (h' c d hcd).after _ _
  | found hvalue hnext => exact .found hvalue hnext
  | failed => exact .failed
  | strayBlank => exact .strayBlank

theorem Agrees.commit (h : Agrees near bare r s) : Agrees near bare (commit r) (commit s) :=
  fun c d hcd => by
  have hout := h c d hcd
  rw [commit_apply, commit_apply]
  generalize r c = o at hout
  generalize s d = o' at hout
  cases hout with
  | absent => exact .failed
  | found hvalue hnext => exact .found hvalue hnext
  | failed => exact .failed
  | strayBlank => exact .strayBlank

theorem Agrees.optional (h : Agrees SameRest bare r s) :
    Agrees SameRest (Option.map bare) (optional r) (optional s) := by
  have hsome : Agrees SameRest (Option.map bare) (do return some (← r)) (do return some (← s)) :=
    h.map fun _ _ hab => congrArg some hab
  exact hsome.orElse (agrees_pure rfl)

/-- Round by round repetitions agree. -/
theorem Agrees.many (h : Agrees SameRest bare r s) :
    Agrees SameRest (List.map bare) (many r) (many s) := by
  intro c d hcd
  have hout := h c d hcd
  fun_induction Rule.many r c generalizing d with
  | case1 c a next notes hrc hlt ih =>
      rw [hrc] at hout
      obtain ⟨b, next', notes', hsd, hvalue, hnext⟩ := hout.exists_found
      rw [many_of_found hsd (hcd ▸ hnext ▸ hlt)]
      refine ((ih _ hnext (h _ _ hnext)).andThen fun _ _ hvalues _ _ hlast => ?_).after _ _
      exact .found (congrArg₂ List.cons hvalue hvalues) hlast
  | case2 c a next notes hrc hnot =>
      rw [hrc] at hout
      obtain ⟨b, next', notes', hsd, hvalue, hnext⟩ := hout.exists_found
      rw [Rule.many, hsd]
      simp only [if_neg (hcd ▸ hnext ▸ hnot)]
      exact .found (congrArg (fun b => [b]) hvalue) hnext
  | case3 c notes hrc =>
      rw [hrc] at hout
      obtain ⟨notes', hsd⟩ := hout.exists_absent
      rw [many_of_absent hsd]
      exact .found rfl hcd
  | case4 c notes hrc =>
      rw [hrc] at hout
      obtain ⟨notes', hsd⟩ := hout.exists_failed
      rw [Rule.many, hsd]
      exact .failed
  | case5 c hrc =>
      rw [hrc] at hout
      rw [Rule.many, hout.eq_strayBlank]
      exact .strayBlank

theorem Agrees.oneOrMore (h : Agrees SameRest bare r s) :
    Agrees SameRest (List.map bare) (oneOrMore r) (oneOrMore s) :=
  h.bind fun _ _ hfirst => h.many.map fun _ _ hmore => congrArg₂ List.cons hfirst hmore

/-! ### Tokens -/

/-- The gap in front makes no difference to what is behind it. -/
theorem agrees_skip : Agrees SameAhead id (skip .anyLine) (skip .anyLine) := by
  rintro c d ⟨g, h, rest, hc, hd⟩
  rw [skip, skip, hc.lead_eq, hd.lead_eq]
  exact .found rfl (hc.rest_past.trans hd.rest_past.symm)

theorem agrees_skip_same (gap : Gap) : Agrees SameRest id (skip gap) (skip gap) := by
  intro c d hcd
  rw [skip, skip, hcd]
  exact .found rfl (hcd.past _)

theorem Agrees.same (h : Agrees SameAhead bare r s) : Agrees SameRest bare r s :=
  fun c d hcd => h c d hcd.ahead

theorem agrees_mark (gap : Gap) (token : Char) :
    Agrees SameRest id (mark gap token) (mark gap token) := by
  refine (agrees_skip_same gap).bind fun _ _ _ => agrees_rest_bind fun text => ?_
  split
  · exact agrees_advance _
  · exact agrees_expect _

theorem agrees_keyword (word : Text) : Agrees SameRest id (keyword word) (keyword word) := by
  refine (agrees_skip_same _).bind fun _ _ _ => agrees_rest_bind fun text => ?_
  split
  · exact agrees_advance _
  · exact agrees_expect _

theorem agrees_symbol (what : Text) :
    Agrees SameRest Tree.Symbol.unplaced (symbol what) (symbol what) := by
  refine (agrees_skip_same _).bind fun _ _ _ => agrees_here.bind fun pos pos' _ => ?_
  refine agrees_rest_bind fun text => ?_
  dsimp only
  split
  · exact agrees_expect _
  · exact (agrees_advance _).bind fun _ _ _ => agrees_pure rfl

theorem name_eq_of_unplaced {s s' : Tree.Symbol} (h : s.unplaced = s'.unplaced) :
    s.name = s'.name := (Tree.Symbol.mk.inj h).1

theorem agrees_stringHere : Agrees SameRest id stringHere stringHere := by
  refine agrees_rest_bind fun text => ?_
  have htaken (taken value : Text) : Agrees SameRest id (do advance taken; return value : Rule Text)
      (do advance taken; return value) :=
    (agrees_advance taken).bind fun _ _ _ => agrees_pure rfl
  split
  · split
    · exact htaken _ _
    · exact agrees_unclosed _
  · split
    · split
      · exact htaken _ _
      · exact agrees_unclosed _
    · exact agrees_failure

theorem agrees_string : Agrees SameRest Prod.fst string string :=
  (agrees_skip_same _).bind fun _ _ _ => agrees_here.bind fun _ _ _ =>
    (agrees_stringHere.orElse (agrees_expect _)).map fun _ _ hvalue => hvalue

theorem agrees_shellWord : Agrees SameRest id shellWord shellWord := by
  refine (agrees_skip_same _).bind fun _ _ _ => agrees_rest_bind fun text => ?_
  split
  · exact agrees_failure
  · split
    · exact agrees_failure
    · refine agrees_stringHere.orElse ?_
      dsimp only
      split
      · exact fun _ _ _ => .strayBlank
      · exact (agrees_advance _).bind fun _ _ _ => agrees_pure rfl

theorem agrees_shellWords : Agrees SameRest id shellWords shellWords := by
  refine agrees_shellWord.many.bind fun words words' hwords => ?_
  obtain rfl : words = words' := by simpa using hwords
  split
  · exact agrees_pure rfl
  · exact (agrees_skip_same _).bind fun _ _ _ => (agrees_expect _).commit

theorem agrees_key : Agrees SameRest Prod.fst key key := by
  refine (agrees_skip_same _).bind fun _ _ _ c d hcd => ?_
  have hrest : c.rest = d.rest := hcd
  have hname : (c.past _).rest = (d.past _).rest := hcd.past (c.rest.takeWhile isKeyChar)
  have hnext : Cursor.rest _ = Cursor.rest _ :=
    SameRest.past hname (Gap.lead .sameLine (c.past (c.rest.takeWhile isKeyChar)).rest)
  dsimp only
  rw [← hrest, ← hname, ← hnext]
  split
  · exact .absent
  · split
    · exact .found rfl (SameRest.past hnext _)
    · split <;> exact .absent

theorem agrees_referenceHere :
    Agrees SameRest Tree.Piece.unplaced referenceHere referenceHere := by
  intro c d hcd
  have hrest : c.rest = d.rest := hcd
  rw [referenceHere, referenceHere, ← hrest]
  split
  · dsimp only
    split
    · exact .failed
    · exact .found rfl (hcd.past _)
  · exact .absent

/-! ### Expressions and commands -/

theorem agrees_piece : Agrees SameRest Tree.Piece.unplaced piece piece := by
  refine Agrees.orElse (agrees_string.bind ?_) ?_
  · rintro ⟨value, pos⟩ ⟨value', pos'⟩ rfl
    exact agrees_pure rfl
  · exact (agrees_skip_same _).bind fun _ _ _ => agrees_referenceHere

theorem agrees_expressionFrom {head head' : Tree.Piece} (h : head.unplaced = head'.unplaced) :
    Agrees SameRest Tree.Expression.unplaced (expressionFrom head) (expressionFrom head') := by
  have hnext : Agrees SameRest Tree.Piece.unplaced (do mark .sameLine '+'; commit piece)
      (do mark .sameLine '+'; commit piece) :=
    (agrees_mark _ _).bind fun _ _ _ => agrees_piece.commit
  exact hnext.many.map fun _ _ htail => congrArg₂ Tree.Expression.mk h htail

theorem agrees_expression : Agrees SameRest Tree.Expression.unplaced expression expression :=
  agrees_piece.bind fun _ _ hhead => agrees_expressionFrom hhead

theorem agrees_quickCommand :
    Agrees SameRest Tree.QuickCommand.unplaced quickCommand quickCommand := by
  have hmark (gap : Gap) (token : Char) : Agrees SameRest id (optional (mark gap token))
      (optional (mark gap token)) := by
    have h := (agrees_mark gap token).optional
    rwa [Option.map_id] at h
  have hcommand (name : Option Text) (toggles : Bool) : Agrees SameRest Tree.QuickCommand.unplaced
      (do return ⟨← expression, name, toggles⟩) (do return ⟨← expression, name, toggles⟩) :=
    agrees_expression.map fun _ _ hexpr => congrArg (Tree.QuickCommand.mk · name toggles) hexpr
  refine agrees_string.optional.bind fun name name' hname => ?_
  rcases name with _ | ⟨value, pos⟩ <;> rcases name' with _ | ⟨value', pos'⟩
  · refine (hmark _ _).bind fun toggle toggle' htoggle => ?_
    obtain rfl : toggle = toggle' := htoggle
    split
    · exact (hcommand _ _).commit
    · exact hcommand _ _
  · cases hname
  · cases hname
  · obtain rfl : value = value' := Option.some.inj hname
    refine (hmark _ _).bind fun named named' hnamed => ?_
    obtain rfl : named = named' := hnamed
    split
    · refine Agrees.commit ((hmark _ _).bind fun toggle toggle' htoggle => ?_)
      obtain rfl : toggle = toggle' := htoggle
      exact hcommand _ _
    · have hhead : (Tree.Piece.literal value pos).unplaced =
        (Tree.Piece.literal value pos').unplaced := rfl
      exact (agrees_expressionFrom hhead).map fun _ _ hexpr =>
        congrArg (Tree.QuickCommand.mk · none false) hexpr

theorem Agrees.commaList (h : Agrees SameRest bare r r) :
    Agrees SameRest (List.map bare) (commaList r) (commaList r) := by
  have hnext : Agrees SameRest bare (do mark .anyLine ','; Rule.commit r)
      (do mark .anyLine ','; Rule.commit r) :=
    (agrees_mark _ _).bind fun _ _ _ => h.commit
  exact Agrees.commit <| h.bind fun _ _ hfirst =>
    hnext.many.map fun _ _ hmore => congrArg₂ List.cons hfirst hmore

theorem agrees_variableDefinition :
    Agrees SameRest Tree.Variable.unplaced variableDefinition variableDefinition := by
  have hdefault : Agrees SameRest Prod.fst (do mark .anyLine '='; commit string)
      (do mark .anyLine '='; commit string) :=
    (agrees_mark _ _).bind fun _ _ _ => agrees_string.commit
  exact (agrees_symbol _).bind fun _ _ hname => hdefault.optional.map fun _ _ hvalue =>
    congrArg₂ (Tree.Variable.mk · · .start) (name_eq_of_unplaced hname) hvalue

/-! ### Constructs that begin with a gap -/

/-- A construct that begins with its keyword keeps the position of the keyword. -/
theorem agrees_placed (word : Text) {f : Position → Rule α}
    (hf : ∀ pos pos', Agrees SameRest bare (f pos) (f pos')) :
    Agrees SameAhead bare (do skip .anyLine; let pos ← here; keyword word; f pos)
      (do skip .anyLine; let pos ← here; keyword word; f pos) :=
  agrees_skip.bind fun _ _ _ => agrees_here.bind fun pos pos' _ =>
    (agrees_keyword word).bind fun _ _ _ => hf pos pos'

theorem agrees_shellLine : Agrees SameAhead Tree.ShellLine.unplaced shellLine shellLine :=
  agrees_placed _ fun _ _ => agrees_shellWords.map fun _ _ hshell =>
    congrArg (Tree.ShellLine.mk · .start) hshell

theorem agrees_clause : Agrees SameRest Tree.Clause.unplaced clause clause := by
  refine Agrees.orElse ?_ (Agrees.orElse ?_ ?_)
  · exact (agrees_keyword _).bind fun _ _ _ =>
      (agrees_symbol _).commaList.map fun _ _ hnames => congrArg Tree.Clause.set hnames
  · exact (agrees_keyword _).bind fun _ _ _ =>
      agrees_variableDefinition.commaList.map fun _ _ hvars => congrArg Tree.Clause.vars hvars
  · exact agrees_shellLine.same.map fun _ _ hline => congrArg Tree.Clause.shell hline

theorem agrees_commandBlock :
    Agrees SameAhead Tree.CommandBlock.unplaced commandBlock commandBlock := by
  refine agrees_placed _ fun _ _ => (agrees_mark _ _).bind fun _ _ _ => Agrees.commit ?_
  refine agrees_clause.many.bind fun _ _ hclauses => ?_
  refine agrees_quickCommand.bind fun _ _ hcommand => (agrees_mark _ _).bind fun _ _ _ => ?_
  exact agrees_pure (congrArg₂ (Tree.CommandBlock.mk · · .start) hclauses hcommand)

theorem agrees_entryValue : Agrees SameRest Tree.EntryValue.unplaced entryValue entryValue := by
  refine Agrees.commit (Agrees.orElse ?_ (Agrees.orElse ?_ ?_))
  · exact agrees_commandBlock.same.map fun _ _ hblock => congrArg Tree.EntryValue.block hblock
  · exact agrees_quickCommand.map fun _ _ hquick => congrArg Tree.EntryValue.quick hquick
  · exact (agrees_symbol _).map fun _ _ hname => congrArg Tree.EntryValue.menu hname

theorem agrees_entry : Agrees SameRest Tree.Entry.unplaced entry entry := by
  refine agrees_key.bind ?_
  rintro ⟨key, pos⟩ ⟨key', pos'⟩ rfl
  exact agrees_entryValue.map fun _ _ hvalue => congrArg (Tree.Entry.mk key · .start) hvalue

theorem agrees_menu : Agrees SameAhead Tree.Menu.unplaced menu menu := by
  refine agrees_placed _ fun _ _ => Agrees.commit ?_
  refine agrees_string.optional.bind fun title title' htitle => ?_
  refine (agrees_symbol _).bind fun name name' hname => (agrees_mark _ _).bind fun _ _ _ => ?_
  refine agrees_entry.oneOrMore.bind fun entries entries' hentries => ?_
  refine (agrees_mark _ _).bind fun _ _ _ => agrees_pure ?_
  simp only [Tree.Menu.unplaced, name_eq_of_unplaced hname, htitle, hentries]

theorem agrees_snippet : Agrees SameAhead Tree.Snippet.unplaced snippet snippet := by
  refine agrees_placed _ fun _ _ => Agrees.commit ?_
  refine (agrees_symbol _).bind fun _ _ hname => (agrees_mark _ _).bind fun _ _ _ => ?_
  exact agrees_expression.map fun _ _ hexpr =>
    congrArg₂ (Tree.Snippet.mk · · .start) (name_eq_of_unplaced hname) hexpr

theorem agrees_echoSetting : Agrees SameAhead Tree.Setting.unplaced echoSetting echoSetting := by
  refine agrees_placed _ fun _ _ => Agrees.commit (Agrees.orElse ?_ ?_)
  · exact (agrees_keyword _).bind fun _ _ _ => agrees_pure rfl
  · exact (agrees_keyword _).bind fun _ _ _ => agrees_pure rfl

theorem agrees_setting : Agrees SameAhead Tree.Setting.unplaced setting setting := by
  refine Agrees.orElse ?_ agrees_echoSetting
  exact agrees_shellLine.map fun _ _ hline => congrArg Tree.Setting.shell hline

theorem agrees_item : Agrees SameAhead Tree.Item.unplaced item item := by
  refine Agrees.orElse ?_ ?_
  · exact agrees_menu.map fun _ _ hmenu => congrArg Tree.Item.menu hmenu
  · exact agrees_snippet.map fun _ _ hsnippet => congrArg Tree.Item.snippet hsnippet

/-! ### Repetitions behind another gap -/

variable {c d mid next : Cursor}

theorem Agrees.finds (h : Agrees near bare r s) (hcd : near c d) {a : α} (hf : Finds r c a next) :
    ∃ b next', Finds s d b next' ∧ bare a = bare b ∧ next.SameRest next' := by
  obtain ⟨notes, hf⟩ := hf
  have hout := h c d hcd
  rw [hf] at hout
  obtain ⟨b, next', notes', hsd, hvalue, hnext⟩ := hout.exists_found
  exact ⟨b, next', ⟨notes', hsd⟩, hvalue, hnext⟩

theorem Agrees.misses (h : Agrees near bare r s) (hcd : near c d) (hm : Misses r c) :
    Misses s d := by
  obtain ⟨notes, hm⟩ := hm
  have hout := h c d hcd
  rw [hm] at hout
  exact hout.exists_absent

/-- A rule that begins with a gap finds values that agree behind any other gap, one by one. -/
theorem Repeats.moved (hr : Agrees SameAhead bare r r) (hshort : Shortens r) {values : List α}
    (h : Repeats r c values next) (hcd : c.SameAhead d) :
    ∃ values' next', Repeats r d values' next' ∧ values.map bare = values'.map bare ∧
      next.SameAhead next' := by
  induction h generalizing d with
  | done hm => exact ⟨[], d, .done (hr.misses hcd hm), rfl, hcd⟩
  | @again c mid next a values hf _ _ ih =>
      obtain ⟨b, mid', hf', hvalue, hmid⟩ := hr.finds hcd hf
      obtain ⟨values', next', hrepeat, hvalues, hnext⟩ := ih hmid.ahead
      exact ⟨b :: values', next', .again hf' (hshort _ _ _ hf') hrepeat,
        congrArg₂ List.cons hvalue hvalues, hnext⟩

/-- Behind one more setting, and whatever gap follows it, a file says what it says on its own. -/
theorem finds_file_behind {f : Tree.File} {s : Tree.Setting} (hf : Finds file c f next)
    (hs : Finds setting d s mid) (hmid : c.SameAhead mid) :
    ∃ (f' : Tree.File) (next' : Cursor), Finds file d ⟨s :: f'.settings, f'.items⟩ next' ∧
      f.unplaced = f'.unplaced := by
  obtain ⟨settings, c₁, hsettings, hf⟩ := finds_bind.1 hf
  obtain ⟨items, c₂, hitems, hf⟩ := finds_bind.1 hf
  obtain ⟨settings', d₁, hsettings', hagree, h₁⟩ :=
    ((finds_many shortens_setting).1 hsettings).moved agrees_setting shortens_setting hmid
  obtain ⟨items', d₂, hitems', hagree', g, g', rest, hc, hd⟩ :=
    ((finds_many shortens_item).1 hitems).moved agrees_item shortens_item h₁
  have hempty : items.isEmpty = items'.isEmpty := by
    rw [Bool.eq_iff_iff, List.isEmpty_iff, List.isEmpty_iff, ← List.map_eq_nil_iff, hagree',
      List.map_eq_nil_iff]
  rw [finds_skip_bind hc, finds_rest_bind, hc.rest_past] at hf
  split at hf
  · exact absurd (finds_commit.1 hf) not_finds_failure
  · rename_i hends
    obtain ⟨rfl, -⟩ := finds_pure.1 hf
    refine ⟨⟨settings', items'⟩, d₂.past g', ?_, congrArg₂ Tree.File.mk hagree hagree'⟩
    have hfirst := Repeats.again hs (shortens_setting _ _ _ hs) hsettings'
    refine hfirst.finds_many.bind (hitems'.finds_many.bind ?_)
    rw [finds_skip_bind hd, finds_rest_bind, hd.rest_past, ← hempty, if_neg hends]
    exact finds_pure.2 ⟨rfl, rfl⟩

end Rule

end KeyMenu
