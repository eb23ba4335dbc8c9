import KeyMenu.Proofs.Config.ToTree
import KeyMenu.Proofs.Tree.Completeness
import Mathlib

/-!
# Reading what has been written

A configuration is written line by line. Each line is a layout of some of the tokens of its tree,
and so is the whole text; reading it gives the tree back, up to positions, and with it the
configuration.

* `Printed toks text`: in front of a new line, the text is a layout of the tokens;
* `PrintedLines toks lines`: the same for lines, whichever way they are joined;
* `Config.layout_render`: what is written is a layout of the tree;
* `Config.ofText_render_of_wellFormed`: reading it gives the configuration back.
-/

namespace KeyMenu

open Tree

/-! ### Lines -/

/-- In front of a new line, on which a token may stand or nothing, the text is a layout of the
tokens. -/
def Printed (toks : List Token) (text : Text) : Prop :=
  (∀ t ∈ toks.head?, t.gap = .anyLine) ∧
    ∀ (more : List Token) (rest : Text), (∀ t ∈ more.head?, t.gap = .anyLine) →
      Layout more ('\n' :: rest) → Layout (toks ++ more) (text ++ '\n' :: rest)

/-- Each line is a layout of a part of the tokens. -/
def PrintedLines (toks : List Token) (lines : List Text) : Prop :=
  ∃ parts : List (List Token × Text), parts.flatMap Prod.fst = toks ∧ parts.map Prod.snd = lines ∧
    ∀ p ∈ parts, Printed p.1 p.2

theorem gap_of_head?_append {toks more : List Token} (h : ∀ t ∈ toks.head?, t.gap = .anyLine)
    (hmore : ∀ t ∈ more.head?, t.gap = .anyLine) :
    ∀ t ∈ (toks ++ more).head?, t.gap = .anyLine := by
  cases toks with
  | nil => exact hmore
  | cons t ts => exact h

namespace Printed

variable {toks : List Token} {text : Text}

theorem indent (h : Printed toks text) (spaces : Text) (hspaces : ∀ c ∈ spaces, c = ' ') :
    Printed toks (spaces ++ text) := by
  refine ⟨h.1, fun more rest hmore hrest => ?_⟩
  rw [List.append_assoc]
  exact (h.2 more rest hmore hrest).spaces fun c hc => .inl (hspaces c hc ▸ rfl)

theorem lines (h : Printed toks text) : PrintedLines toks [text] :=
  ⟨[(toks, text)], by simp, rfl, by simpa using h⟩

end Printed

namespace PrintedLines

variable {toks more : List Token} {lines : List Text}

theorem nil : PrintedLines [] [] := ⟨[], rfl, rfl, fun _ hp => nomatch hp⟩

theorem append {lines' : List Text} (h : PrintedLines toks lines) (h' : PrintedLines more lines') :
    PrintedLines (toks ++ more) (lines ++ lines') := by
  obtain ⟨parts, rfl, rfl, hparts⟩ := h
  obtain ⟨parts', rfl, rfl, hparts'⟩ := h'
  refine ⟨parts ++ parts', List.flatMap_append, List.map_append, fun p hp => ?_⟩
  exact (List.mem_append.1 hp).elim (hparts p) (hparts' p)

theorem flatMap {α : Type} {f : α → List Token} {g : α → List Text} {l : List α}
    (h : ∀ a ∈ l, PrintedLines (f a) (g a)) : PrintedLines (l.flatMap f) (l.flatMap g) := by
  induction l with
  | nil => exact nil
  | cons a l ih =>
      obtain ⟨ha, hl⟩ := List.forall_mem_cons.1 h
      exact ha.append (ih hl)

theorem indent (h : PrintedLines toks lines) (spaces : Text) (hspaces : ∀ c ∈ spaces, c = ' ') :
    PrintedLines toks (lines.map (spaces ++ ·)) := by
  obtain ⟨parts, rfl, rfl, hparts⟩ := h
  refine ⟨parts.map fun p => (p.1, spaces ++ p.2), ?_, ?_, ?_⟩
  · rw [List.flatMap_map]
  · rw [List.map_map, List.map_map]
    rfl
  · exact List.forall_mem_map.2 fun p hp => (hparts p hp).indent spaces hspaces

/-- Lines are joined by line ends. -/
theorem joined (h : PrintedLines toks lines) (ends : Text) (hends : ∀ c ∈ ends, c = '\n') :
    Printed toks (Text.joinWith ('\n' :: ends) lines) := by
  obtain ⟨parts, rfl, rfl, hparts⟩ := h
  induction parts with
  | nil => exact ⟨fun _ ht => (nomatch ht), fun more rest _ h => h⟩
  | cons p parts ih =>
      obtain ⟨hp, hparts⟩ := List.forall_mem_cons.1 hparts
      have ih := ih hparts
      refine ⟨gap_of_head?_append hp.1 ih.1, fun more rest hmore hrest => ?_⟩
      cases parts with
      | nil => simpa using hp.2 more rest hmore hrest
      | cons q parts =>
          have hgap := gap_of_head?_append ih.1 hmore
          -- The line ends in front of the next line belong to a gap.
          have hnext := (ih.2 more rest hmore hrest).spaces (g := '\n' :: ends) fun c hc => by
            rcases List.mem_cons.1 hc with rfl | hc
            · exact .inr ⟨rfl, hgap⟩
            · exact .inr ⟨hends c hc ▸ rfl, hgap⟩
          rw [List.cons_append] at hnext
          have htext := hp.2 _ _ hgap hnext
          rw [List.map_cons, Text.joinWith_cons _ _ (by simp), List.flatMap_cons]
          simpa only [List.append_assoc, List.cons_append] using htext

end PrintedLines

/-! ### Expressions and commands -/

theorem Text.joinWith_cons_eq (separator part : Text) (parts : List Text) :
    joinWith separator (part :: parts) = part ++ parts.flatMap (separator ++ ·) := by
  induction parts generalizing part with
  | nil => simp
  | cons q qs ih => rw [joinWith_cons _ _ (by simp), ih, List.flatMap_cons, List.append_assoc,
      List.append_assoc]

/-- Behind a comma or a line end no name and no sum goes on. -/
def Stops (t : Text) : Prop := t.head? = some ',' ∨ t.head? = some '\n'

theorem Stops.noSign {t : Text} (h : Stops t) : t.NoSign := by
  rcases h with h | h
  · obtain ⟨t, rfl⟩ := List.head?_eq_some_iff.1 h
    exact Text.noSign_cons t (by decide) (by decide)
  · obtain ⟨t, rfl⟩ := List.head?_eq_some_iff.1 h
    exact Text.noSign_newline t

theorem Stops.symbolChar {t : Text} (h : Stops t) : ∀ d ∈ t.head?, isSymbolChar d = false := by
  intro d hd
  rcases h with h | h
  · rw [h] at hd
    exact Option.mem_some.1 hd ▸ by decide
  · rw [h] at hd
    exact Option.mem_some.1 hd ▸ by decide

theorem stops_newline (t : Text) : Stops ('\n' :: t) := .inr rfl

/-- A piece in front of something that does not go on with it. -/
theorem layout_piece {p : Part} (hnames : ∀ name ∈ Expr.references [p], IsName name)
    {more : List Token} {rest : Text} (h : Layout more rest)
    (hname : ∀ d ∈ rest.head?, isSymbolChar d = false) (hsign : SignAllowed more.head? rest) :
    Layout (p.toTree.leaf.token :: more) (p.render ++ rest) := by
  cases p with
  | literal value => exact h.cons_string hsign
  | reference name =>
      have hs : Token.Spelled (.reference name) ('$' :: name) :=
        ⟨hnames name (by simp [Expr.references]), rfl⟩
      exact .direct hs ⟨hname, hsign⟩ h
  | foreign e => exact e.elim

/-- The pieces of an expression, the first of which stands alone or in front of a plus sign. -/
theorem layout_pieces {head : Part} {tail : List Part}
    (hnames : ∀ p ∈ head :: tail, ∀ name ∈ Expr.references [p], IsName name)
    {more : List Token} {rest : Text} (h : Layout more ('\n' :: rest)) :
    Layout (head.toTree.leaf.token :: (Layout.tailTokens (tail.map Part.toTree) ++ more))
      (head.render ++ (tail.flatMap (fun p => " + ".toList ++ p.render) ++ '\n' :: rest)) := by
  -- A piece may stand in front of a plus sign or a line end, so the layout grows from the end.
  induction tail generalizing head with
  | nil =>
      have hstop := stops_newline rest
      exact layout_piece (hnames head (by simp)) h hstop.symbolChar (.inr (.inr hstop.noSign))
  | cons p tail ih =>
      obtain ⟨hhead, htail⟩ := List.forall_mem_cons.1 hnames
      have hplus := (((ih htail).space (c := ' ') (.inl rfl)).cons_mark (x := '+') nofun).space
        (c := ' ') (.inl rfl)
      refine layout_piece hhead ?_ ?_ (.inl rfl)
      · rw [List.flatMap_cons, List.append_assoc, List.append_assoc]
        exact hplus
      · exact fun d hd => Option.mem_some.1 hd ▸ by decide

theorem layout_expression {e : Expr} (he : e.Writable) {more : List Token} {rest : Text}
    (h : Layout more ('\n' :: rest)) :
    Layout (tokens (Expr.toTree e).leaves ++ more) (e.render ++ '\n' :: rest) := by
  obtain ⟨head, tail, rfl⟩ := List.exists_cons_of_ne_nil he.1
  rw [Layout.tokens_expression, Expr.render, List.map_cons, Text.joinWith_cons_eq,
    List.append_assoc, List.flatMap_map]
  refine layout_pieces (fun p hp name hname => he.2 name ?_) h
  obtain ⟨q, hq, hq'⟩ := List.mem_filterMap.1 hname
  exact List.mem_filterMap.2 ⟨q, List.mem_singleton.1 hq ▸ hp, hq'⟩

theorem gap_of_opensCommand {t : Token} (h : Layout.OpensCommand t) : t.gap = .anyLine := by
  cases t with
  | string _ | reference _ => rfl
  | mark c =>
      obtain rfl := h
      rfl
  | word _ | name _ | key _ | shellWord _ => exact h.elim

theorem printed_quick {c : Command} (h : c.expr.Writable) :
    Printed (tokens c.toQuick.leaves) c.renderQuick := by
  refine ⟨fun t ht => ?_, fun more rest _ hrest => ?_⟩
  · obtain ⟨u, ts, hu, hopens⟩ := Layout.exists_opensCommand c.toQuick
    rw [hu] at ht
    exact gap_of_opensCommand (Option.mem_some.1 ht ▸ hopens)
  · rw [Layout.tokens_quickCommand, Command.renderQuick, List.append_assoc, List.append_assoc,
      List.append_assoc, List.append_assoc]
    have hexpr := layout_expression h hrest
    have htoggle : Layout ((if c.togglesEcho then [.mark '@'] else []) ++
        (tokens (Expr.toTree c.expr).leaves ++ more))
        ((if c.togglesEcho then ['@'] else []) ++ (c.expr.render ++ '\n' :: rest)) := by
      cases c.togglesEcho with
      | true => exact hexpr.cons_mark nofun
      | false => exact hexpr
    obtain ⟨expr, name, toggles, options⟩ := c
    cases name with
    | none => exact htoggle
    | some name =>
        have hdash := ((htoggle.space (c := ' ') (.inl rfl)).cons_mark (x := '-') nofun).space
          (c := ' ') (.inl rfl)
        have hname := hdash.cons_string (v := name) (.inr (.inl rfl))
        rw [List.append_assoc]
        exact hname

/-! ### Clauses -/

/-- Items with a comma and a space between them. -/
theorem layout_listed {α : Type} (leaves : α → List Leaf) (render : α → Text) {items : List α}
    (hne : items ≠ [])
    (hitem : ∀ a ∈ items, ∀ (more : List Token) (rest : Text), Stops rest → Layout more rest →
      Layout (tokens (leaves a) ++ more) (render a ++ rest))
    {more : List Token} {rest : Text} (h : Layout more ('\n' :: rest)) :
    Layout (tokens (listed (items.map leaves)) ++ more)
      (Text.joinWith ", ".toList (items.map render) ++ '\n' :: rest) := by
  obtain ⟨first, tail, rfl⟩ := List.exists_cons_of_ne_nil hne
  rw [List.map_cons, listed, List.flatMap_map, tokens_append, tokens_flatMap, List.append_assoc,
    List.map_cons, Text.joinWith_cons_eq, List.flatMap_map, List.append_assoc]
  clear hne
  induction tail generalizing first with
  | nil => exact hitem first (by simp) more _ (stops_newline rest) h
  | cons a tail ih =>
      obtain ⟨hfirst, htail⟩ := List.forall_mem_cons.1 hitem
      have hspace := (ih a htail).space (c := ' ') (.inl rfl)
      have hcomma := hspace.cons_mark (x := ',') fun hbrace => absurd hbrace (by decide)
      rw [List.flatMap_cons, List.flatMap_cons, List.append_assoc, List.append_assoc]
      refine hfirst _ _ (.inl rfl) ?_
      simpa using hcomma

theorem symbolChar_space (rest : Text) : ∀ d ∈ (' ' :: rest).head?, isSymbolChar d = false :=
  fun _ hd => Option.mem_some.1 hd ▸ by decide

theorem printed_set {words : List Text} (hne : words ≠ []) (h : ∀ word ∈ words, IsName word) :
    Printed (tokens (Clause.leaves (.set (words.map (⟨·, .start⟩)))))
      ("set ".toList ++ Text.joinWith ", ".toList words) := by
  refine ⟨fun t ht => Option.mem_some.1 ht ▸ rfl, fun more rest _ hrest => ?_⟩
  have hlist := layout_listed (fun word => [⟨.name word, some .start⟩]) id hne
    (fun word hword more rest hstop hrest => hrest.cons_name (h word hword) hstop.symbolChar) hrest
  rw [List.map_id] at hlist
  rw [Clause.leaves, List.map_map, tokens_cons, List.append_assoc]
  exact (hlist.space (.inl rfl)).cons_word (symbolChar_space _)

/-- A variable in front of a comma or a line end. -/
theorem layout_variable {v : Variable} (hname : IsName v.name) {more : List Token} {rest : Text}
    (hstop : Stops rest) (h : Layout more rest) :
    Layout (tokens v.toTree.leaves ++ more) (v.render ++ rest) := by
  obtain ⟨name, default⟩ := v
  rw [Variable.render, List.append_assoc]
  cases default with
  | none => exact h.cons_name hname hstop.symbolChar
  | some value =>
      have hstring := h.cons_string (v := value) (.inr (.inr hstop.noSign))
      have hvalue := hstring.cons_mark (x := '=') nofun
      exact hvalue.cons_name hname fun d hd => Option.mem_some.1 hd ▸ by decide

theorem printed_vars {vs : List Variable} (hne : vs ≠ []) (h : ∀ v ∈ vs, IsName v.name) :
    Printed (tokens (Clause.leaves (.vars (vs.map Variable.toTree))))
      ("vars ".toList ++ Text.joinWith ", ".toList (vs.map Variable.render)) := by
  refine ⟨fun t ht => Option.mem_some.1 ht ▸ rfl, fun more rest _ hrest => ?_⟩
  have hlist := layout_listed (fun v => v.toTree.leaves) Variable.render hne
    (fun v hv more rest hstop hrest => layout_variable (h v hv) hstop hrest) hrest
  rw [Clause.leaves, List.map_map, tokens_cons, List.append_assoc]
  exact (hlist.space (.inl rfl)).cons_word (symbolChar_space _)

/-- The words of a shell line, up to the end of the line. -/
theorem layout_shellWords {more : List Token} {rest : Text} (h : Layout more ('\n' :: rest))
    (word : Text) (words : List Text) :
    Layout (.shellWord word :: (words.flatMap (fun w => [.shellWord w]) ++ more))
      (word.spelling ++ (words.flatMap (fun w => ' ' :: w.spelling) ++ '\n' :: rest)) := by
  induction words generalizing word with
  | nil =>
      exact .direct (.inl (Text.spells_spelling word))
        ⟨.inl (Text.spells_spelling word), .inr (Text.endsLine_newline rest)⟩ h
  | cons w words ih =>
      have hnext := (ih w).space (c := ' ') (.inl rfl)
      exact .direct (.inl (Text.spells_spelling word))
        ⟨.inl (Text.spells_spelling word), .inl ⟨w, rfl⟩⟩ (by simpa using hnext)

theorem printed_shell (s : Shell) :
    Printed (tokens (Tree.ShellLine.leaves ⟨s, .start⟩)) s.render := by
  rw [Layout.tokens_shellLine]
  refine ⟨fun t ht => Option.mem_some.1 ht ▸ rfl, fun more rest _ hrest => ?_⟩
  have hwords := (layout_shellWords hrest s.program s.args).space (c := ' ') (.inl rfl)
  have hrender : s.render =
      "shell ".toList ++ Text.joinWith [' '] (s.words.map Text.spelling) := rfl
  rw [hrender, Shell.words, List.map_cons, Text.joinWith_cons_eq, List.flatMap_map,
    List.append_assoc, List.append_assoc]
  exact hwords.cons_word (symbolChar_space _)

theorem printed_clauses {o : Options} (h : o.Writable) :
    PrintedLines (o.toClauses.flatMap fun cl => tokens cl.leaves) o.renderClauses := by
  rw [Options.toClauses, Options.renderClauses, List.flatMap_append, List.flatMap_append]
  refine .append (.append ?_ ?_) ?_
  · cases hwords : o.settingWords with
    | nil => exact .nil
    | cons word words =>
        have hprinted : Printed _ _ := printed_set (List.cons_ne_nil word words) fun w hw => by
          rcases o.mem_settingWords (hwords ▸ hw) with rfl | rfl <;> decide
        simpa using hprinted.lines
  · cases hvars : o.vars with
    | nil => exact .nil
    | cons v vs =>
        have hprinted : Printed _ _ := printed_vars (List.cons_ne_nil v vs) fun w hw =>
          h.2 w (hvars ▸ hw)
        simpa using hprinted.lines
  · cases o.shell with
    | none => exact .nil
    | some s =>
        have hlines := (printed_shell s).lines
        simpa [Clause.leaves] using hlines

/-! ### Entries and menus -/

theorem spaces_of_decide {spaces : Text} (h : (spaces.all (· == ' ')) = true) :
    ∀ c ∈ spaces, c = ' ' := by simpa using h

/-- A key in front of what is printed on its line. -/
theorem Printed.keyed {toks : List Token} {text : Text} (h : Printed toks text) {key : Text}
    (hkey : IsKey key) :
    Printed (.key key :: .mark ':' :: toks) ("    ".toList ++ key ++ ": ".toList ++ text) := by
  refine ⟨fun t ht => Option.mem_some.1 ht ▸ rfl, fun more rest hmore hrest => ?_⟩
  have hspace := (h.2 more rest hmore hrest).space (c := ' ') (.inl rfl)
  have hcolon := hspace.cons_mark (x := ':') nofun
  have hentry : Layout (.key key :: .mark ':' :: (toks ++ more))
      (key ++ (':' :: ' ' :: (text ++ '\n' :: rest))) :=
    .direct ⟨hkey, rfl⟩ (fun d hd => Option.mem_some.1 hd ▸ by decide) hcolon
  have hindent := hentry.spaces (g := "    ".toList) fun c hc =>
    .inl (spaces_of_decide rfl c hc ▸ rfl)
  rw [List.append_assoc, List.append_assoc, List.append_assoc]
  exact hindent

theorem printed_name {name : Text} (h : IsName name) : Printed [.name name] name :=
  ⟨fun _ ht => Option.mem_some.1 ht ▸ rfl, fun _ rest _ hrest =>
    hrest.cons_name h (stops_newline rest).symbolChar⟩

/-- A brace at the end of a line. -/
theorem printed_brace : Printed [.mark '\x7d'] ['\x7d'] :=
  ⟨fun t ht => Option.mem_some.1 ht ▸ rfl, fun _ _ _ hrest =>
    hrest.cons_mark fun _ _ hd => Option.mem_some.1 hd ▸ by decide⟩

theorem printed_cmd : Printed [.word "cmd".toList, .mark '\x7b'] "cmd \x7b".toList := by
  refine ⟨fun t ht => Option.mem_some.1 ht ▸ rfl, fun more rest _ hrest => ?_⟩
  have hopen := (hrest.cons_mark (x := '\x7b') nofun).space (c := ' ') (.inl rfl)
  exact hopen.cons_word (symbolChar_space _)

theorem printed_entry {key : Text} {e : Entry} (hkey : IsKey key) (he : e.Writable) :
    PrintedLines (tokens (Tree.Entry.leaves ⟨key, e.toTree, .start⟩)) (Menu.renderEntry key e) := by
  cases e with
  | submenu name => exact ((printed_name he).keyed hkey).lines
  | command c =>
      obtain ⟨expr, name, toggles, options⟩ := c
      obtain ⟨hexpr, hoptions⟩ := he
      cases options with
      | none => exact ((printed_quick hexpr).keyed hkey).lines
      | some o =>
          -- What stands inside the braces is indented, and still a number of lines.
          have hinside := (printed_clauses (hoptions o rfl)).append (printed_quick hexpr).lines
          have hbody := hinside.indent "        ".toList (spaces_of_decide rfl)
          have hclose := (printed_brace.indent "    ".toList (spaces_of_decide rfl)).lines
          have hlines := ((printed_cmd.keyed hkey).lines.append hbody).append hclose
          have htokens : tokens (Tree.Entry.leaves
              ⟨key, Entry.toTree (.command ⟨expr, name, toggles, some o⟩), .start⟩) =
              [.key key, .mark ':', .word "cmd".toList, .mark '\x7b'] ++
              ((o.toClauses.flatMap fun cl => tokens cl.leaves) ++
                tokens (Command.toQuick ⟨expr, name, toggles, none⟩).leaves) ++
                [.mark '\x7d'] := by
            simp only [Tree.Entry.leaves, Entry.toTree, Tree.EntryValue.leaves, Options.toBlock,
              Tree.CommandBlock.leaves, tokens_cons, tokens_append, tokens_flatMap, tokens_nil,
              List.append_assoc, List.cons_append, List.nil_append]
            rfl
          rw [htokens]
          exact hlines

theorem printed_header {name : Text} (title : Option Text) (h : IsName name) :
    Printed (.word "menu".toList :: ((title.toList.flatMap fun t => [.string t]) ++
        [.name name, .mark '\x7b']))
      ("menu ".toList ++ (title.elim [] fun t => t.spelling ++ [' ']) ++ name ++
        " \x7b".toList) := by
  refine ⟨fun t ht => Option.mem_some.1 ht ▸ rfl, fun more rest _ hrest => ?_⟩
  have hname := ((hrest.cons_mark (x := '\x7b') nofun).space (c := ' ') (.inl rfl)).cons_name h
    (symbolChar_space _)
  rw [List.append_assoc, List.append_assoc, List.append_assoc]
  cases title with
  | none => exact (hname.space (.inl rfl)).cons_word (symbolChar_space _)
  | some t =>
      have hsign : Text.NoSign (' ' :: (name ++ (" \x7b".toList ++ '\n' :: rest))) :=
        Text.noSign_space (Text.noSign_name h _)
      have htitle := (hname.space (c := ' ') (.inl rfl)).cons_string (v := t) (.inr (.inr hsign))
      have hword := (htitle.space (c := ' ') (.inl rfl)).cons_word (w := "menu".toList)
        (symbolChar_space _)
      rw [Option.elim_some, List.append_assoc]
      exact hword

theorem printed_menu {m : Menu} (h : m.WellFormed) : Printed (tokens m.toTree.leaves) m.render := by
  obtain ⟨name, title, entries⟩ := m
  have hentries : PrintedLines _ _ := PrintedLines.flatMap fun p hp =>
    printed_entry (h.entries p hp).1 (h.entries p hp).2
  have hmenu := (((printed_header title h.name).lines.append hentries).append
    printed_brace.lines).joined [] fun _ hc => nomatch hc
  have htokens : tokens (Menu.toTree ⟨name, title, entries⟩).leaves =
      .word "menu".toList :: ((title.toList.flatMap fun t => [.string t]) ++
        [.name name, .mark '\x7b']) ++
      (entries.flatMap fun p => tokens (Tree.Entry.leaves ⟨p.1, p.2.toTree, .start⟩)) ++
      [.mark '\x7d'] := by
    cases title <;>
      simp only [Menu.toTree, Tree.Menu.leaves, tokens_cons, tokens_append, tokens_flatMap,
        tokens_nil, List.flatMap_map, List.cons_append, List.nil_append, Option.toList,
        List.flatMap_cons, List.flatMap_nil]
  rw [htokens]
  cases title <;> exact hmenu

/-! ### Settings, snippets and the whole text -/

theorem printed_settings (s : Settings) :
    PrintedLines (s.toTree.flatMap fun t => tokens t.leaves) s.renderLines := by
  rw [Settings.toTree, Settings.renderLines, List.flatMap_append]
  refine .append ?_ ?_
  · cases s.shell with
    | none => exact .nil
    | some shell =>
        have hlines := (printed_shell shell).lines
        simpa [Tree.Setting.leaves] using hlines
  · cases s.echo with
    | true => exact .nil
    | false =>
        have hline : Printed [.word "echo".toList, .word "off".toList] "echo off".toList := by
          refine ⟨fun t ht => Option.mem_some.1 ht ▸ rfl, fun more rest _ hrest => ?_⟩
          have hoff := hrest.cons_word (w := "off".toList) (stops_newline rest).symbolChar
          exact (hoff.space (c := ' ') (.inl rfl)).cons_word (symbolChar_space _)
        exact hline.lines

theorem printed_snippet {name : Text} {e : Expr} (hname : IsName name) (he : e.Writable) :
    Printed (tokens (Tree.Snippet.leaves ⟨name, Expr.toTree e, .start⟩))
      ("snippet ".toList ++ name ++ " = ".toList ++ Expr.render e) := by
  refine ⟨fun t ht => Option.mem_some.1 ht ▸ rfl, fun more rest _ hrest => ?_⟩
  have hmark := (((layout_expression he hrest).space (c := ' ') (.inl rfl)).cons_mark (x := '=')
    nofun).space (c := ' ') (.inl rfl)
  have hword := ((hmark.cons_name hname (symbolChar_space _)).space (c := ' ') (.inl rfl)).cons_word
    (w := "snippet".toList) (symbolChar_space _)
  rw [List.append_assoc, List.append_assoc, List.append_assoc]
  exact hword

namespace Config

variable {c : Config}

theorem printed_blocks (h : c.WellFormed) :
    PrintedLines (tokens c.toTree.leaves) c.renderBlocks := by
  have hsettings : PrintedLines (c.settings.toTree.flatMap fun t => tokens t.leaves)
      (if c.settings.renderLines.isEmpty then []
        else [Text.joinWith ['\n'] c.settings.renderLines]) := by
    have hlines := printed_settings c.settings
    split
    · rename_i hempty
      obtain ⟨parts, htoks, hparts, -⟩ := hlines
      rw [List.isEmpty_iff.1 hempty, List.map_eq_nil_iff] at hparts
      subst hparts
      exact htoks ▸ .nil
    · exact (hlines.joined [] fun _ hc => nomatch hc).lines
  have hsnippets : PrintedLines
      (c.snippets.flatMap fun p => tokens (Tree.Snippet.leaves ⟨p.1, Expr.toTree p.2, .start⟩))
      (c.snippets.map fun p =>
        "snippet ".toList ++ p.1 ++ " = ".toList ++ Expr.render p.2) := by
    rw [List.map_eq_flatMap]
    exact .flatMap fun p hp => (printed_snippet (h.snippets p hp).1 (h.snippets p hp).2).lines
  have hmenus : PrintedLines (c.menus.flatMap fun m => tokens m.toTree.leaves)
      (c.menus.map Menu.render) := by
    rw [List.map_eq_flatMap]
    exact .flatMap fun m hm => (printed_menu (h.menus m hm)).lines
  have htokens : tokens c.toTree.leaves = (c.settings.toTree.flatMap fun t => tokens t.leaves) ++
      (c.snippets.flatMap fun p => tokens (Tree.Snippet.leaves ⟨p.1, Expr.toTree p.2, .start⟩)) ++
      c.menus.flatMap fun m => tokens m.toTree.leaves := by
    simp only [toTree, File.leaves, tokens_append, tokens_flatMap, List.flatMap_append,
      List.flatMap_map, List.append_assoc, Item.leaves]
  rw [htokens]
  exact (hsettings.append hsnippets).append hmenus

/-- What is written is a layout of the tree of the configuration. -/
theorem layout_render (h : c.WellFormed) : Layout (tokens c.toTree.leaves) c.render := by
  have hprinted := (printed_blocks h).joined ['\n'] fun _ hc => List.mem_singleton.1 hc
  have hlayout := hprinted.2 [] [] (fun _ ht => nomatch ht) (.finish (.space rfl .nil))
  rwa [List.append_nil] at hlayout

/-- A well-formed configuration is read back from what is written of it. -/
theorem ofText_render_of_wellFormed (h : c.WellFormed) : ofText c.render = .ok c := by
  obtain ⟨f, hparse, heq⟩ := Tree.File.parse_of_layout (proper_toTree h) (layout_render h)
  exact ofText_eq_ok_iff.2 ⟨f, hparse, ofTree_congr heq (ofTree_toTree h)⟩

/-- **Writing loses nothing**: a configuration that has been read from a text is written as a text
from which the same configuration is read. -/
theorem ofText_render {text : Text} (h : ofText text = .ok c) : ofText c.render = .ok c :=
  ofText_render_of_wellFormed (wellFormed_of_ofText h)

/-- A menu called `cmd`, keys of signs, and strings with quotes and backslashes. -/
theorem ofText_render_signs :
    ∃ c, ofText ("menu root \x7b +: cmd \"\x7d: \"a\\\"b\" - @!m\"\\\"m! \x7d " ++
        "menu cmd \x7b x: cmd \x7b vars v=\"\" \"run\" \x7d \x7d").toList = .ok c ∧
      ofText c.render = .ok c := by
  obtain ⟨c, h⟩ := exists_of_isSome_ofText
    ("menu root \x7b +: cmd \"\x7d: \"a\\\"b\" - @!m\"\\\"m! \x7d " ++
      "menu cmd \x7b x: cmd \x7b vars v=\"\" \"run\" \x7d \x7d").toList (by cbv)
  exact ⟨c, h, ofText_render h⟩

end Config

end KeyMenu
