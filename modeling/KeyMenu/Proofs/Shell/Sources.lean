import KeyMenu.Proofs.Config.Translation
import KeyMenu.Proofs.Tree.Failure
import KeyMenu.Proofs.Tree.Found
import KeyMenu.Proofs.Tree.ShellLine
import KeyMenu.Run.Command
import Mathlib

/-!
# The sources of a shell

The environment names a shell in a text of its own, a file and a command name theirs in a line. One
spelling means the same shell in all three places.

* `Config.withShell`, `Config.ofText_shellLine`: a file with one shell line more in front;
* `Config.HasCommand`, `Config.hasCommand_of_hasShellLine`: the command that has a shell line;
* `Config.RunsWith`: a command is run by the given shell;
* `Shell.runsWith_of_parse`: the main theorem.
-/

namespace KeyMenu

/-! ### Files -/

namespace Config

/-- The configuration, with the given shell for commands that ask for none. -/
def withShell (c : Config) (shell : Shell) : Config :=
  { c with settings := { c.settings with shell := some shell } }

variable {c : Config} {f : Tree.File} {w e text : Text} {shell : Shell}

/-- A shell setting more where there was none. -/
theorem ofTree_shell_cons (h : ofTree f = .ok c) (hnone : c.settings.shell = none)
    (line : Tree.ShellLine) :
    ofTree ⟨.shell line :: f.settings, f.items⟩ = .ok (c.withShell line.shell) := by
  obtain ⟨hfaults, rfl⟩ := ofTree_eq_ok_iff.1 h
  obtain ⟨hdistinct, hgraph⟩ := faults_eq_nil_iff.1 hfaults
  have hshells : f.shells = [] := List.getLast?_eq_none_iff.1 hnone
  set f' : Tree.File := ⟨.shell line :: f.settings, f.items⟩
  have hshells' : f'.shells = [line.shell] := congrArg (line.shell :: ·) hshells
  have hassemble : assemble f' = (assemble f).withShell line.shell := by
    have hsettings : Settings.ofTree f' = ⟨some line.shell, (Settings.ofTree f).echo⟩ := by
      rw [Settings.ofTree, hshells']
      rfl
    rw [assemble, hsettings]
    rfl
  refine ofTree_eq_ok_iff.2 ⟨faults_eq_nil_iff.2 ⟨?_, ?_⟩, hassemble⟩
  · exact ⟨by rw [hshells']; exact le_rfl, hdistinct.echoes, hdistinct.snippets,
      hdistinct.menuNames, hdistinct.menus⟩
  · rw [hassemble]
    exact hgraph

/-- A file without a shell of its own, behind a line that asks for one. -/
theorem ofText_shellLine (hw : w.OneLine) (hparse : Shell.parse w = .ok shell)
    (he : Text.IsLineEnd e) (h : ofText text = .ok c) (hnone : c.settings.shell = none) :
    ofText (w.shellLine e ++ text) = .ok (c.withShell shell) := by
  obtain ⟨f, hf, hc⟩ := ofText_eq_ok_iff.1 h
  obtain ⟨last, hfile⟩ := Tree.File.finds_of_parse hf
  obtain ⟨next, hline, hend⟩ :=
    Shell.finds_shellLine_of_parse (c := .start (w.shellLine e ++ text)) hw hparse he rfl
  obtain ⟨f', last', hfile', hagree⟩ := Rule.finds_file_behind hfile
    (Rule.finds_orElse.2 (.inl (hline.bind (Rule.finds_pure.2 ⟨rfl, rfl⟩))))
    (Cursor.sameAhead_of_lineEndsBefore hend)
  obtain ⟨notes, hfile'⟩ := hfile'
  refine ofText_eq_ok_iff.2 ⟨_, by rw [Tree.File.parse, Rule.parse, hfile'], ?_⟩
  refine ofTree_congr ?_ (ofTree_shell_cons hc hnone ⟨shell, .start⟩)
  simp only [Tree.File.unplaced, Tree.File.mk.injEq] at hagree
  simp only [Tree.File.unplaced, List.map_cons, hagree]
  rfl

/-! ### Commands -/

/-- Under a key of a menu the configuration has the command. -/
def HasCommand (c : Config) (menu key : Text) (command : Command) : Prop :=
  ∃ m, c.menu? menu = some m ∧ m.entries.get? key = some (.command command)

/-- The command of a block asks for the shell of its shell line. -/
theorem hasCommand_of_hasShellLine {menu key : Text} {line : Tree.ShellLine}
    (h : ofTree f = .ok c) (hline : f.HasShellLine menu key line) :
    ∃ command, c.HasCommand menu key command ∧ command.shell = some line.shell := by
  obtain ⟨hfaults, rfl⟩ := ofTree_eq_ok_iff.1 h
  obtain ⟨hdistinct, -⟩ := faults_eq_nil_iff.1 hfaults
  obtain ⟨m, hm, rfl, entry, hentry, rfl, b, hb, hline⟩ := hline
  have hmenu := hdistinct.menus m hm
  have hmenus := (assemble_of_distinct hdistinct).2
  have hshells : b.shells = [line] := by
    obtain ⟨line', hline'⟩ := List.length_eq_one_iff.1
      ((hmenu.blocks entry hentry b hb).shells.antisymm (List.length_pos_of_mem hline))
    rw [hline', List.mem_singleton] at hline
    rw [hline', hline]
  refine ⟨Command.ofTree b.command (some (Options.ofTree b)), ⟨Menu.ofTree m, ?_, ?_⟩, ?_⟩
  · refine menu?_name (m := Menu.ofTree m) ?_ ?_
    · rw [hmenus, List.map_map]
      exact hdistinct.menuNames
    · rw [hmenus]
      exact List.mem_map_of_mem hm
  · rw [Menu.entries_ofTree hmenu]
    refine (Table.get?_eq_some_iff ?_).2 (List.mem_map.2 ⟨entry, hentry, by rw [hb]; rfl⟩)
    rw [Table.names, List.map_map]
    exact hmenu.keys
  · simp [Command.ofTree, Command.shell, Options.ofTree, hshells]

/-! ### Starting commands -/

/-- In the environment the shell is chosen for the command, and whatever the command comes to, it is
started with the words of the shell and the text of the command as one more argument. -/
structure RunsWith (c : Config) (environ : Environment) (command : Command) (shell : Shell) :
    Prop where
  choose : Shell.choose command.shell c.settings.shell environ = .ok shell
  argv : ∀ text, command.expr.expand c.snippets = .ok text → ∀ workdir values,
    ∃ plan, c.plan ⟨environ, workdir⟩ command values = .ok plan ∧ plan.text = text ∧
      plan.call.argv = shell.words ++ [text]

theorem runsWith_of_choose {environ : Environment} {command : Command}
    (h : Shell.choose command.shell c.settings.shell environ = .ok shell) :
    c.RunsWith environ command shell := by
  refine ⟨h, fun text htext workdir values => ?_⟩
  rw [plan, htext]
  simp only [h]
  exact ⟨_, rfl, rfl, rfl⟩

end Config

/-! ### One spelling in three places -/

/-- A cursor in a text stands where its position says. -/
theorem Cursor.Within.rest_of_pos {before more : Text} {c : Cursor}
    (h : c.Within (before ++ more)) (hpos : c.pos = .behind before) : c.rest = more := by
  have hsame : Position.behind ((before ++ more).take c.offset) =
      .behind ((before ++ more).take before.length) := by
    rw [← h.pos, hpos, List.take_left]
  have hoffset : c.offset = before.length :=
    Position.eq_of_behind_take h.le_length (by simp) hsame
  rw [h.rest, hoffset, List.drop_left]

namespace Shell

variable {w : Text} {shell : Shell}

/-- The environment speaks for commands and files that ask for no shell. -/
theorem choose_of_environment (hparse : parse w = .ok shell) {environ : Environment}
    (henviron : Table.get? environ Environment.shellName = some w) :
    choose none none environ = .ok shell := by
  have hfilled : environ.filled? Environment.shellName = some w := by
    rw [Environment.filled?, henviron, Option.filter_some, if_pos]
    simp [ne_nil_of_parse hparse]
  rw [choose, ofEnvironment, hfilled]
  simp only [hparse]

/-- Where a shell line stands in the text of a file, it asks for the shell that stands there. -/
theorem eq_of_foundIn (hw : w.OneLine) (hparse : parse w = .ok shell) {before e after : Text}
    (he : Text.IsLineEnd e) {line : Tree.ShellLine}
    (h : Rule.FoundIn (before ++ (w.shellLine e ++ after)) Rule.shellLine line)
    (hpos : line.pos = .behind before) : line.shell = shell := by
  obtain ⟨c, next, hc, hf⟩ := h
  obtain ⟨g, rest, hskip⟩ := c.exists_skips .anyLine
  have hline : line.pos = (c.past g).pos := by
    rw [Rule.shellLine, Rule.finds_skip_bind hskip, Rule.finds_here_bind] at hf
    obtain ⟨_, mid, -, hf⟩ := Rule.finds_bind.1 hf
    obtain ⟨found, mid', -, hf⟩ := Rule.finds_bind.1 hf
    obtain ⟨rfl, -⟩ := Rule.finds_pure.1 hf
    rfl
  have hrest := (hc.past ⟨rest, hskip.1.symm⟩).rest_of_pos (hline.symm.trans hpos)
  rw [hskip.rest_past] at hrest
  subst hrest
  rw [eq_of_finds_shellLine hw hparse he hskip hf]

/-- **One spelling of a shell means the same in the environment, in a file and in a command.** Let a
text have no white space but spaces and tabs, and let it be accepted as a bare invocation. If the
environment names it, it is the shell of each command that asks for none in a file that has none. On
the first line of a file that has no shell otherwise, it is the shell of each command that asks for
none, and the file says what it said without the line. On a line of a command block it is the shell
of the command. Each time the command is started with the words of the shell and its own text. -/
theorem runsWith_of_parse (hw : w.OneLine) (hparse : parse w = .ok shell) :
    (∀ (c : Config) (environ : Environment) (command : Command),
      Table.get? environ Environment.shellName = some w → c.settings.shell = none →
      command.shell = none → c.RunsWith environ command shell) ∧
    (∀ (text e : Text) (c : Config), Text.IsLineEnd e → Config.ofText text = .ok c →
      c.settings.shell = none →
      Config.ofText (w.shellLine e ++ text) = .ok (c.withShell shell) ∧
        ∀ (environ : Environment) (command : Command), command.shell = none →
          (c.withShell shell).RunsWith environ command shell) ∧
    (∀ (before e after menu key : Text) (f : Tree.File) (line : Tree.ShellLine) (c : Config),
      Text.IsLineEnd e → Tree.File.parse (before ++ (w.shellLine e ++ after)) = .ok f →
      Config.ofTree f = .ok c → f.HasShellLine menu key line → line.pos = .behind before →
      ∃ command, c.HasCommand menu key command ∧ command.shell = some shell ∧
        ∀ environ : Environment, c.RunsWith environ command shell) := by
  refine ⟨fun c environ command henviron hfile hcommand => ?_,
    fun text e c he htext hnone => ⟨Config.ofText_shellLine hw hparse he htext hnone,
      fun environ command hcommand => ?_⟩,
    fun before e after menu key f line c he hf hc hline hpos => ?_⟩
  · apply Config.runsWith_of_choose
    rw [hcommand, hfile]
    exact choose_of_environment hparse henviron
  · apply Config.runsWith_of_choose
    rw [hcommand]
    rfl
  · obtain ⟨command, hfound, hshell⟩ := Config.hasCommand_of_hasShellLine hc hline
    rw [eq_of_foundIn hw hparse he (hline.foundIn hf) hpos] at hshell
    refine ⟨command, hfound, hshell, fun environ => Config.runsWith_of_choose ?_⟩
    rw [hshell]
    rfl

/-- A `#` and a quote inside words, a protected string with a `#` in it, and a comment right behind
a string. -/
theorem runsWith_of_parse_comment :
    ∃ (w : Text) (shell : Shell), w = "\tsh -c#x a\"b !m\"p #q\"m! \"r s\"# note ".toList ∧
      shell.words = ["sh".toList, "-c#x".toList, "a\"b".toList, "p #q".toList, "r s".toList] ∧
      parse w = .ok shell ∧
      (∃ (environ : Environment) (c : Config) (command : Command),
        Table.get? environ Environment.shellName = some w ∧
          c.HasCommand "root".toList "a".toList command ∧ c.RunsWith environ command shell) ∧
      (∃ c command, Config.ofText (w.shellLine "\r\n".toList ++
          "menu root \x7b a: \"x\" \x7d".toList) = .ok c ∧
        c.HasCommand "root".toList "a".toList command ∧ c.RunsWith [] command shell) ∧
      ∃ c command, Config.ofText ("menu root \x7b\n a: cmd \x7b\n  ".toList ++
          (w.shellLine "\n".toList ++ "\"x\" \x7d \x7d".toList)) = .ok c ∧
        c.HasCommand "root".toList "a".toList command ∧ c.RunsWith [] command shell := by
  have hw : Text.OneLine "\tsh -c#x a\"b !m\"p #q\"m! \"r s\"# note ".toList := by
    have hall : ("\tsh -c#x a\"b !m\"p #q\"m! \"r s\"# note ".toList.all fun d =>
      !isBlank d || Gap.sameLine.isSpace d) = true := by cbv
    intro d hd hblank
    simpa [hblank] using List.all_eq_true.1 hall d hd
  obtain ⟨shell, hwords, hparse⟩ : ∃ shell : Shell, shell.words =
      ["sh".toList, "-c#x".toList, "a\"b".toList, "p #q".toList, "r s".toList] ∧
        parse "\tsh -c#x a\"b !m\"p #q\"m! \"r s\"# note ".toList = .ok shell :=
    ⟨⟨_, _⟩, rfl, by cbv⟩
  obtain ⟨henviron, hfile, hcommand⟩ := runsWith_of_parse hw hparse
  let x : Command := ⟨[.literal "x".toList], none, false, none⟩
  let c : Config := ⟨⟨none, true⟩, [], [⟨"root".toList, none, [("a".toList, .command x)]⟩]⟩
  have hc : Config.ofText "menu root \x7b a: \"x\" \x7d".toList = .ok c := by cbv
  refine ⟨_, shell, rfl, hwords, hparse, ?_, ?_, ?_⟩
  · exact ⟨[(Environment.shellName, _)], c, x, rfl, ⟨_, rfl, rfl⟩, henviron c _ x rfl rfl rfl⟩
  · obtain ⟨htext, hruns⟩ := hfile _ _ c (.inr rfl) hc rfl
    exact ⟨_, x, htext, ⟨_, rfl, rfl⟩, hruns [] x rfl⟩
  · obtain ⟨f, line, c', hf, hc', hline, hpos⟩ : ∃ (f : Tree.File) (line : Tree.ShellLine)
        (c' : Config), Tree.File.parse ("menu root \x7b\n a: cmd \x7b\n  ".toList ++
          (Text.shellLine "\tsh -c#x a\"b !m\"p #q\"m! \"r s\"# note ".toList "\n".toList ++
            "\"x\" \x7d \x7d".toList)) = .ok f ∧ Config.ofTree f = .ok c' ∧
        f.HasShellLine "root".toList "a".toList line ∧
        line.pos = .behind "menu root \x7b\n a: cmd \x7b\n  ".toList :=
      ⟨⟨[], [.menu ⟨"root".toList, none, [⟨"a".toList, .block ⟨[.shell ⟨⟨"sh".toList,
          ["-c#x".toList, "a\"b".toList, "p #q".toList, "r s".toList]⟩, ⟨3, 3⟩⟩],
          ⟨⟨.literal "x".toList ⟨4, 1⟩, []⟩, none, false⟩, ⟨2, 5⟩⟩, ⟨2, 2⟩⟩], ⟨1, 1⟩⟩]⟩,
        _, _, by cbv, by cbv, ⟨_, List.mem_cons_self, rfl, _, List.mem_cons_self, rfl, _, rfl,
          List.mem_cons_self⟩, by cbv⟩
    obtain ⟨command, hfound, -, hruns⟩ :=
      hcommand _ _ _ _ _ f line c' (.inl rfl) hf hc' hline hpos
    exact ⟨c', command, Config.ofText_eq_ok_iff.2 ⟨f, hf, hc'⟩, hfound, hruns []⟩

end Shell

end KeyMenu
