import KeyMenu.Tree.Token

/-!
# The grammar

One rule for each construct of the language, from pieces of expressions up to whole files. A rule
that has read its keyword is committed: what follows must be there.

* `Tree.File.parse`: a configuration text;
* `Shell.parse`: a bare shell invocation;
* `Tree.Expression.parse`: an expression on its own.
-/

namespace KeyMenu

namespace Rule

/-! ### Expressions and commands -/

/-- A reference to a snippet, right at the cursor. The name follows the dollar sign directly. -/
def referenceHere : Rule Tree.Piece := fun c =>
  match c.rest with
  | '$' :: text =>
      let name := text.takeWhile isSymbolChar
      if name.isEmpty then .failed [(c.past ['$']).expecting "snippet name".toList]
      else .found (.reference name c.pos) (c.past ('$' :: name)) []
  | _ => .absent [c.expecting (shown ['$'])]

/-- A piece of an expression. -/
def piece : Rule Tree.Piece :=
  (do let (value, pos) ← string; return .literal value pos) <|>
    (do skip .anyLine; referenceHere)

/-- The rest of an expression whose first piece has been read. A `+` stands on the line on which
the piece before it ends. -/
def expressionFrom (head : Tree.Piece) : Rule Tree.Expression := do
  let tail ← many do
    mark .sameLine '+'
    commit piece
  return ⟨head, tail⟩

/-- An expression. -/
def expression : Rule Tree.Expression := do expressionFrom (← piece)

/-- An inline command. A string with a `-` after it on its line is a display name; any other
string is the first piece of the expression. -/
def quickCommand : Rule Tree.QuickCommand := do
  match ← optional string with
  | some (value, pos) =>
      if (← optional (mark .sameLine '-')).isSome then
        commit do
          let toggle ← optional (mark .anyLine '@')
          let expr ← expression
          return ⟨expr, some value, toggle.isSome⟩
      else
        let expr ← expressionFrom (.literal value pos)
        return ⟨expr, none, false⟩
  | none =>
      if (← optional (mark .anyLine '@')).isSome then
        commit do
          let expr ← expression
          return ⟨expr, none, true⟩
      else
        let expr ← expression
        return ⟨expr, none, false⟩

/-- One or more items with commas between them. -/
def commaList {α : Type} (item : Rule α) : Rule (List α) :=
  commit do
    let first ← item
    let more ← many do
      mark .anyLine ','
      commit item
    return first :: more

/-- A variable, with the string after `=` as its default. -/
def variableDefinition : Rule Tree.Variable := do
  let name ← symbol "variable name".toList
  let default ← optional do
    mark .anyLine '='
    commit string
  return ⟨name.name, default.map (·.1), name.pos⟩

/-- A shell line. -/
def shellLine : Rule Tree.ShellLine := do
  skip .anyLine
  let pos ← here
  keyword "shell".toList
  let shell ← shellWords
  return ⟨shell, pos⟩

/-- A clause of a command block. -/
def clause : Rule Tree.Clause :=
  (do keyword "set".toList; return .set (← commaList (symbol "setting name".toList))) <|>
    (do keyword "vars".toList; return .vars (← commaList variableDefinition)) <|>
    (do return .shell (← shellLine))

/-- A command block. The word `cmd` without a brace after it begins none. -/
def commandBlock : Rule Tree.CommandBlock := do
  skip .anyLine
  let pos ← here
  keyword "cmd".toList
  mark .anyLine '\x7b'
  commit do
    let clauses ← many clause
    let command ← quickCommand
    mark .anyLine '\x7d'
    return ⟨clauses, command, pos⟩

/-! ### Menus, snippets, settings and files -/

/-- What a key leads to. -/
def entryValue : Rule Tree.EntryValue :=
  commit <|
    (do return .block (← commandBlock)) <|> (do return .quick (← quickCommand)) <|>
      (do return .menu (← symbol "menu name".toList))

/-- An entry of a menu. -/
def entry : Rule Tree.Entry := do
  let (name, pos) ← key
  let value ← entryValue
  return ⟨name, value, pos⟩

/-- A menu with at least one entry. -/
def menu : Rule Tree.Menu := do
  skip .anyLine
  let pos ← here
  keyword "menu".toList
  commit do
    let title ← optional string
    let name ← symbol "menu name".toList
    mark .anyLine '\x7b'
    let entries ← oneOrMore entry
    mark .anyLine '\x7d'
    return ⟨name.name, title.map (·.1), entries, pos⟩

/-- A snippet. -/
def snippet : Rule Tree.Snippet := do
  skip .anyLine
  let pos ← here
  keyword "snippet".toList
  commit do
    let name ← symbol "snippet name".toList
    mark .anyLine '='
    let expr ← expression
    return ⟨name.name, expr, pos⟩

/-- The setting that turns the echo of commands on or off. -/
def echoSetting : Rule Tree.Setting := do
  skip .anyLine
  let pos ← here
  keyword "echo".toList
  commit <|
    (do keyword "on".toList; return .echo true pos) <|>
      (do keyword "off".toList; return .echo false pos)

/-- A setting of the file. -/
def setting : Rule Tree.Setting := (do return .shell (← shellLine)) <|> echoSetting

/-- A menu or a snippet. -/
def item : Rule Tree.Item := (do return .menu (← menu)) <|> (do return .snippet (← snippet))

/-- A whole file: settings, then at least one menu or snippet, and nothing else. -/
def file : Rule Tree.File := do
  let settings ← many setting
  let items ← many item
  skip .anyLine
  if items.isEmpty || !(← rest).isEmpty then commit failure else return ⟨settings, items⟩

end Rule

/-! ### Reading whole texts -/

/-- Why a text is refused: it does not follow the grammar, or white space other than a space, a
tab or a line end stands in a shell line where a word should begin. -/
inductive ParseError
  | grammar (error : SyntaxError)
  | strayBlank
  deriving DecidableEq

/-- The value that a rule finds at the beginning of a text. -/
def Rule.parse {α : Type} (r : Rule α) (text : Text) : Except ParseError α :=
  match r (.start text) with
  | .found value _ _ => .ok value
  | .absent notes => .error (.grammar (.ofNotes text notes))
  | .failed notes => .error (.grammar (.ofNotes text notes))
  | .strayBlank => .error .strayBlank

/-- Reads a configuration text. -/
def Tree.File.parse (text : Text) : Except ParseError Tree.File := Rule.file.parse text

/-- Reads a bare shell invocation; white space around it does not count. -/
def Shell.parse (text : Text) : Except ParseError Shell :=
  Rule.parse (do let shell ← Rule.shellWords; Rule.finish; return shell) text.strip

/-- Reads an expression on its own. -/
def Tree.Expression.parse (text : Text) : Except ParseError Tree.Expression :=
  Rule.parse (do let expr ← Rule.expression; Rule.finish; return expr) text

end KeyMenu
