import KeyMenu.Config.OfTree
import KeyMenu.Tree.Spelling

/-!
# Writing configurations

`Config.render` writes a configuration as text: settings, then snippets, then menus, a blank line
between neighbours. Reading the text gives the configuration back.
-/

namespace KeyMenu

/-- A part as it is written. -/
def Part.render : Part → Text
  | .literal value => value.spelling
  | .reference name => '$' :: name

/-- An expression as it is written. -/
def Expr.render (e : Expr) : Text := Text.joinWith " + ".toList (e.map Part.render)

/-- A shell line. -/
def Shell.render (s : Shell) : Text :=
  "shell ".toList ++ Text.joinWith [' '] (s.words.map Text.spelling)

/-- A variable and its default. -/
def Variable.render (v : Variable) : Text :=
  v.name ++
    match v.default with
    | none => []
    | some value => '=' :: value.spelling

namespace Command

/-- A command without its options. -/
def renderQuick (c : Command) : Text :=
  (match c.name with
    | none => []
    | some name => name.spelling ++ " - ".toList) ++
    (if c.togglesEcho then ['@'] else []) ++ c.expr.render

end Command

namespace Options

/-- The words of the `set` clause, in code point order. -/
def settingWords (o : Options) : List Text :=
  (if o.ignoresResult then [ignoreResultWord] else []) ++ (if o.repeats then [repeatWord] else [])

/-- The clauses of a block, each on its line; a clause that says nothing is left out. -/
def renderClauses (o : Options) : List Text :=
  (if o.settingWords.isEmpty then []
    else ["set ".toList ++ Text.joinWith ", ".toList o.settingWords]) ++
    (if o.vars.isEmpty then []
      else ["vars ".toList ++ Text.joinWith ", ".toList (o.vars.map Variable.render)]) ++
    (o.shell.map Shell.render).toList

end Options

namespace Command

/-- The lines of a command, of which the first follows the key. -/
def renderLines (c : Command) : List Text :=
  match c.options with
  | none => [c.renderQuick]
  | some o =>
      ["cmd \x7b".toList] ++
        (o.renderClauses ++ [c.renderQuick]).map ("        ".toList ++ ·) ++
        ["    \x7d".toList]

end Command

namespace Menu

/-- The lines of an entry. -/
def renderEntry (key : Text) (entry : Entry) : List Text :=
  let lines := match entry with
    | .submenu name => [name]
    | .command c => c.renderLines
  match lines with
  | [] => []
  | first :: more => ("    ".toList ++ key ++ ": ".toList ++ first) :: more

/-- The lines of a menu. -/
def renderLines (m : Menu) : List Text :=
  let title := match m.title with
    | none => []
    | some title => title.spelling ++ [' ']
  ["menu ".toList ++ title ++ m.name ++ " \x7b".toList] ++
    (m.entries.flatMap fun (key, entry) => renderEntry key entry) ++ ["\x7d".toList]

/-- A menu as it is written. -/
def render (m : Menu) : Text := Text.joinWith ['\n'] m.renderLines

end Menu

/-- The settings as they are written, each on its line; the common ones are left out. -/
def Settings.renderLines (s : Settings) : List Text :=
  (s.shell.map Shell.render).toList ++ (if s.echo then [] else ["echo off".toList])

namespace Config

/-- The parts of the written configuration between which a blank line stands. -/
def renderBlocks (c : Config) : List Text :=
  (if c.settings.renderLines.isEmpty then []
    else [Text.joinWith ['\n'] c.settings.renderLines]) ++
    (c.snippets.map fun (name, e) =>
      "snippet ".toList ++ name ++ " = ".toList ++ Expr.render e) ++
    c.menus.map Menu.render

/-- A configuration as text. -/
def render (c : Config) : Text := Text.joinWith "\n\n".toList c.renderBlocks ++ ['\n']

end Config

end KeyMenu
