import KeyMenu.Config.OfTree
import KeyMenu.Proofs.Tree.Reading
import KeyMenu.Proofs.Tree.Within

/-!
# Where the parts of a tree come from

Whatever a tree contains has been found by its rule somewhere in the text.

* `Rule.FoundIn text r a`: at some place of the text the rule finds `a`;
* one lemma for each way of putting rules together, and one for each construct on the way from a
  file to its clauses;
* `Tree.File.HasShellLine`: the file has a shell line in the command block of an entry;
* `Tree.File.HasShellLine.foundIn`: then it has been found in the text of the file.
-/

namespace KeyMenu

namespace Rule

variable {text : Text} {α β : Type} {r s : Rule α} {f : α → Rule β} {a : α} {b : β}

/-- Somewhere in the text the rule finds the value. -/
def FoundIn (text : Text) {α : Type} (r : Rule α) (a : α) : Prop :=
  ∃ c next, c.Within text ∧ Finds r c a next

theorem Keeps.within (hr : Keeps text r) {c next : Cursor} (hc : c.Within text)
    (hf : Finds r c a next) : next.Within text := by
  obtain ⟨notes, hf⟩ := hf
  have hout := hr c hc
  rw [hf] at hout
  cases hout with
  | found hnext _ => exact hnext

namespace FoundIn

theorem eq_of_pure {a' : α} (h : FoundIn text (pure a) a') : a' = a := by
  obtain ⟨c, next, -, hf⟩ := h
  exact (finds_pure.1 hf).1

theorem bind (h : FoundIn text (r >>= f) b) (hr : Keeps text r) :
    ∃ a, FoundIn text r a ∧ FoundIn text (f a) b := by
  obtain ⟨c, next, hc, hf⟩ := h
  obtain ⟨a, mid, hfirst, hsecond⟩ := finds_bind.1 hf
  exact ⟨a, ⟨c, mid, hc, hfirst⟩, mid, next, hr.within hc hfirst, hsecond⟩

/-- What a construct contains has been found where the construct has. -/
theorem map {g : α → β} (h : FoundIn text (do return g (← r)) b) (hr : Keeps text r) :
    ∃ a, FoundIn text r a ∧ b = g a := by
  obtain ⟨a, ha, hb⟩ := h.bind hr
  exact ⟨a, ha, hb.eq_of_pure⟩

theorem orElse (h : FoundIn text (r <|> s) a) : FoundIn text r a ∨ FoundIn text s a := by
  obtain ⟨c, next, hc, hf⟩ := h
  rcases finds_orElse.1 hf with hf | ⟨-, hf⟩
  · exact .inl ⟨c, next, hc, hf⟩
  · exact .inr ⟨c, next, hc, hf⟩

theorem commit (h : FoundIn text (commit r) a) : FoundIn text r a := by
  obtain ⟨c, next, hc, hf⟩ := h
  exact ⟨c, next, hc, finds_commit.1 hf⟩

/-- Each value of a repetition has been found. -/
theorem of_mem_many {values : List α} (h : FoundIn text (many r) values) (hr : Keeps text r)
    (hshort : Shortens r) : ∀ a ∈ values, FoundIn text r a := by
  obtain ⟨c, next, hc, hf⟩ := h
  have hrepeat := (finds_many hshort).1 hf
  clear hf
  induction hrepeat with
  | done _ => exact fun a ha => absurd ha List.not_mem_nil
  | again hf _ _ ih => exact List.forall_mem_cons.2 ⟨⟨_, _, hc, hf⟩, ih (hr.within hc hf)⟩

theorem of_mem_oneOrMore {values : List α} (h : FoundIn text (oneOrMore r) values)
    (hr : Keeps text r) (hshort : Shortens r) : ∀ a ∈ values, FoundIn text r a := by
  obtain ⟨first, hfirst, h⟩ := h.bind hr
  obtain ⟨more, hmore, rfl⟩ := h.map hr.many
  exact List.forall_mem_cons.2 ⟨hfirst, hmore.of_mem_many hr hshort⟩

/-- Behind the keyword of a construct and the gap in front of it. -/
theorem placed {word : Text} {f : Position → Rule α}
    (h : FoundIn text (do skip .anyLine; let pos ← here; keyword word; f pos) a) :
    ∃ pos, FoundIn text (f pos) a := by
  obtain ⟨_, -, h⟩ := h.bind (keeps_skip _)
  obtain ⟨pos, -, h⟩ := h.bind keeps_here
  obtain ⟨_, -, h⟩ := h.bind (keeps_keyword _)
  exact ⟨pos, h⟩

/-! ### From files to clauses -/

theorem clause {line : Tree.ShellLine} (h : FoundIn text clause (.shell line)) :
    FoundIn text shellLine line := by
  have hQ := closed_keeps text
  rcases h.orElse with h | h
  · obtain ⟨_, -, h⟩ := h.bind (keeps_keyword _)
    obtain ⟨names, -, heq⟩ := h.map (hQ.commaList (hQ.symbol _))
    cases heq
  rcases h.orElse with h | h
  · obtain ⟨_, -, h⟩ := h.bind (keeps_keyword _)
    obtain ⟨vars, -, heq⟩ := h.map (hQ.commaList hQ.variableDefinition)
    cases heq
  · obtain ⟨line', hline, heq⟩ := h.map keeps_shellLine
    cases heq
    exact hline

theorem commandBlock {b : Tree.CommandBlock} (h : FoundIn text commandBlock b) :
    ∀ cl ∈ b.clauses, FoundIn text Rule.clause cl := by
  have hQ := closed_keeps text
  obtain ⟨pos, h⟩ := h.placed
  obtain ⟨_, -, h⟩ := h.bind (keeps_mark _ _)
  obtain ⟨clauses, hclauses, h⟩ := h.commit.bind (hQ.many (hQ.clause keeps_shellLine))
  obtain ⟨command, -, h⟩ := h.bind hQ.quickCommand
  obtain ⟨_, -, h⟩ := h.bind (keeps_mark _ _)
  obtain rfl := h.eq_of_pure
  exact hclauses.of_mem_many (hQ.clause keeps_shellLine) shortens_clause

theorem entryValue {b : Tree.CommandBlock} (h : FoundIn text entryValue (.block b)) :
    FoundIn text Rule.commandBlock b := by
  have hQ := closed_keeps text
  rcases h.commit.orElse with h | h
  · obtain ⟨b', hb, heq⟩ := h.map (hQ.commandBlock keeps_shellLine)
    cases heq
    exact hb
  rcases h.orElse with h | h
  · obtain ⟨q, -, heq⟩ := h.map hQ.quickCommand
    cases heq
  · obtain ⟨name, -, heq⟩ := h.map (keeps_symbol _)
    cases heq

theorem entry {e : Tree.Entry} (h : FoundIn text entry e) :
    FoundIn text Rule.entryValue e.value := by
  obtain ⟨key, -, h⟩ := h.bind keeps_key
  obtain ⟨value, hvalue, rfl⟩ := h.map ((closed_keeps text).entryValue keeps_shellLine)
  exact hvalue

theorem menu {m : Tree.Menu} (h : FoundIn text menu m) :
    ∀ e ∈ m.entries, FoundIn text Rule.entry e := by
  have hQ := closed_keeps text
  have hentry := hQ.entry keeps_shellLine
  obtain ⟨pos, h⟩ := h.placed
  obtain ⟨title, -, h⟩ := h.commit.bind (hQ.optional hQ.string)
  obtain ⟨name, -, h⟩ := h.bind (keeps_symbol _)
  obtain ⟨_, -, h⟩ := h.bind (keeps_mark _ _)
  obtain ⟨entries, hentries, h⟩ := h.bind (hQ.oneOrMore hentry)
  obtain ⟨_, -, h⟩ := h.bind (keeps_mark _ _)
  obtain rfl := h.eq_of_pure
  exact hentries.of_mem_oneOrMore hentry shortens_entry

theorem item {m : Tree.Menu} (h : FoundIn text item (.menu m)) : FoundIn text Rule.menu m := by
  have hQ := closed_keeps text
  rcases h.orElse with h | h
  · obtain ⟨m', hm, heq⟩ := h.map (hQ.menu keeps_shellLine)
    cases heq
    exact hm
  · obtain ⟨s, -, heq⟩ := h.map hQ.snippet
    cases heq

theorem file {f : Tree.File} (h : FoundIn text file f) :
    ∀ i ∈ f.items, FoundIn text Rule.item i := by
  have hQ := closed_keeps text
  have hitem := hQ.item keeps_shellLine
  obtain ⟨settings, -, h⟩ := h.bind (hQ.many (hQ.setting keeps_shellLine))
  obtain ⟨items, hitems, h⟩ := h.bind (hQ.many hitem)
  obtain ⟨_, -, h⟩ := h.bind (keeps_skip _)
  obtain ⟨more, -, h⟩ := h.bind keeps_rest
  split at h
  · obtain ⟨c, next, -, hf⟩ := h.commit
    exact absurd hf not_finds_failure
  · obtain rfl := h.eq_of_pure
    exact hitems.of_mem_many hitem shortens_item

end FoundIn

end Rule

namespace Tree.File

/-- In a menu the file has a command block under a key, with the shell line among its clauses. -/
def HasShellLine (f : File) (menu key : Text) (line : ShellLine) : Prop :=
  ∃ m ∈ f.menus, m.name = menu ∧ ∃ e ∈ m.entries, e.key = key ∧
    ∃ b, e.value = .block b ∧ line ∈ b.shells

/-- The shell lines of command blocks have been found in the text. -/
theorem HasShellLine.foundIn {text menu key : Text} {f : File} {line : ShellLine}
    (h : f.HasShellLine menu key line) (hparse : parse text = .ok f) :
    Rule.FoundIn text Rule.shellLine line := by
  obtain ⟨m, hm, -, e, he, -, b, hb, hline⟩ := h
  obtain ⟨next, hf⟩ := finds_of_parse hparse
  have hfile : Rule.FoundIn text Rule.file f := ⟨_, _, Cursor.within_start text, hf⟩
  have hitem : .menu m ∈ f.items := by
    obtain ⟨i, hi, heq⟩ := List.mem_filterMap.1 hm
    cases i with
    | menu m' => cases heq; exact hi
    | snippet _ => cases heq
  have hclause : .shell line ∈ b.clauses := by
    obtain ⟨cl, hcl, heq⟩ := List.mem_filterMap.1 hline
    cases cl with
    | shell line' => cases heq; exact hcl
    | set _ | vars _ => cases heq
  have hvalue := ((hfile.file _ hitem).item.menu e he).entry
  rw [hb] at hvalue
  exact (hvalue.entryValue.commandBlock _ hclause).clause

end Tree.File

end KeyMenu
