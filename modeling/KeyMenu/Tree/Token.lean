import KeyMenu.Text.Blank
import KeyMenu.Tree.Rule

/-!
# Tokens

* `Gap`: the two kinds of gap between tokens, and `Gap.lead`, the gap at the front of a text;
* `isSymbolChar`, `isKeyChar`, `isMarkerChar`: what names, keys and string markers are made of;
* `quotedBody`, `protectedBody`: the two spellings of strings after their openings;
* one rule for each kind of token.
-/

namespace KeyMenu

/-- A gap may run over line ends, or it stays on its line. -/
inductive Gap
  | anyLine
  | sameLine
  deriving DecidableEq

namespace Gap

/-- The code points that separate tokens, comments apart. -/
def isSpace : Gap → Char → Bool
  | .anyLine, c => c == ' ' || c == '\t' || c == '\r' || c == '\n'
  | .sameLine, c => c == ' ' || c == '\t'

/-- The longest gap at the front of a text: spaces and comments. A comment runs from `#` to the
end of its line, exclusive; `inComment` says that one has begun. -/
def leadFrom (gap : Gap) : Bool → Text → Text
  | _, [] => []
  | true, c :: rest =>
      if c = '\n' then
        if gap.isSpace c then c :: leadFrom gap false rest else []
      else c :: leadFrom gap true rest
  | false, c :: rest =>
      if gap.isSpace c then c :: leadFrom gap false rest
      else if c = '#' then c :: leadFrom gap true rest
      else []

/-- The longest gap at the front of a text. -/
def lead (gap : Gap) (t : Text) : Text := leadFrom gap false t

theorem leadFrom_isPrefix (gap : Gap) (inComment : Bool) (t : Text) :
    leadFrom gap inComment t <+: t := by
  induction t generalizing inComment with
  | nil => cases inComment <;> simp [leadFrom]
  | cons c rest ih =>
      cases inComment with
      | true =>
          by_cases hc : c = '\n'
          · subst hc
            by_cases hs : gap.isSpace '\n' = true
            · simpa [leadFrom, hs] using ih false
            · simp [leadFrom, hs]
          · simpa [leadFrom, hc] using ih true
      | false =>
          by_cases hs : gap.isSpace c = true
          · simpa [leadFrom, hs] using ih false
          · by_cases hc : c = '#'
            · subst hc
              simpa [leadFrom, hs] using ih true
            · simp [leadFrom, hs, hc]

end Gap

/-! ### Character classes and spellings of strings -/

/-- The code points of names: ASCII letters, digits and the underscore. -/
def isSymbolChar (c : Char) : Bool := c.isAlphanum || c == '_'

/-- The code points of keys: everything but a colon and white space. -/
def isKeyChar (c : Char) : Bool := c != ':' && !isBlank c

/-- The code points of the marker of a protected string. -/
def isMarkerChar (c : Char) : Bool := c != '"' && !isBlank c

/-- What follows the opening quote of a string, up to the closing one: the value and its spelling,
closing quote included. Only a double quote is escaped, by a backslash. -/
def quotedBody : Text → Option (Text × Text)
  | [] => none
  | '\\' :: '"' :: rest =>
      (quotedBody rest).map fun (value, spelling) => ('"' :: value, '\\' :: '"' :: spelling)
  | c :: rest =>
      if c = '"' then some ([], [c])
      else (quotedBody rest).map fun (value, spelling) => (c :: value, c :: spelling)

/-- The marker of a protected string, for a text that begins with `!`, the marker and a quote;
and what follows that quote. -/
def protectedOpening : Text → Option (Text × Text)
  | '!' :: after =>
      let marker := after.takeWhile isMarkerChar
      match after.dropWhile isMarkerChar with
      | '"' :: body => some (marker, body)
      | _ => none
  | _ => none

/-- What ends a protected string with the given marker. -/
def closingMark (marker : Text) : Text := '"' :: marker ++ ['!']

namespace Rule

/-! ### Rules for tokens -/

/-- A token as messages show it. -/
def shown (token : Text) : Text := '"' :: token ++ ['"']

/-- Skips a gap. -/
def skip (gap : Gap) : Rule Unit := fun c => .found () (c.past (gap.lead c.rest)) []

/-- A token of one code point, after a gap. -/
def mark (gap : Gap) (token : Char) : Rule Unit := do
  skip gap
  if (← rest).head? = some token then advance [token] else expect (shown [token])

/-- A word of the language, after a gap. It ends where no name could go on. -/
def keyword (word : Text) : Rule Unit := do
  skip .anyLine
  let text ← rest
  if word.isPrefixOf text && !(text.drop word.length).head?.any isSymbolChar then advance word
  else expect (shown word)

/-- A name, after a gap. -/
def symbol (what : Text) : Rule Tree.Symbol := do
  skip .anyLine
  let pos ← here
  let name := (← rest).takeWhile isSymbolChar
  if name.isEmpty then expect what
  else
    advance name
    return ⟨name, pos⟩

/-- The string has no end: its closing is looked for at the end of the text. -/
def unclosed (closing : Text) : Rule α := fun c =>
  .failed [(c.past c.rest).expecting ("closing \x27".toList ++ closing ++ ['\x27'])]

/-- A string in either spelling, right at the cursor. -/
def stringHere : Rule Text := do
  match ← rest with
  | '"' :: body =>
      match quotedBody body with
      | some (value, spelling) =>
          advance ('"' :: spelling)
          return value
      | none => unclosed ['"']
  | text =>
      match protectedOpening text with
      | some (marker, body) =>
          match Text.splitFirst (closingMark marker) body with
          | some (value, _) =>
              advance ('!' :: marker ++ '"' :: value ++ closingMark marker)
              return value
          | none => unclosed (closingMark marker)
      | none => failure

/-- A string and its position, after a gap. -/
def string : Rule (Text × Position) := do
  skip .anyLine
  let pos ← here
  let value ← stringHere <|> expect "string".toList
  return (value, pos)

/-- A word of a shell line: a string or a run of code points other than white space. None begins
at the end of the line. -/
def shellWord : Rule Text := do
  skip .sameLine
  match ← rest with
  | [] => failure
  | c :: text =>
      if c = '\r' || c = '\n' then failure
      else
        stringHere <|> do
          let word := (c :: text).takeWhile (!isBlank ·)
          if word.isEmpty then strayBlank
          else
            advance word
            return word

/-- The words up to the end of the line, as a shell; there must be one. -/
def shellWords : Rule Shell := do
  match ← many shellWord with
  | program :: args => return ⟨program, args⟩
  | [] =>
      skip .sameLine
      commit (expect "shell program".toList)

/-- A key and the colon after it, which stands on the same line. Where the colon is missing, it is
looked for only if this is not likely to be the end of the menu. -/
def key : Rule (Text × Position) := do
  skip .anyLine
  fun c =>
    let name := c.rest.takeWhile isKeyChar
    let next := (c.past name).past (Gap.lead .sameLine (c.past name).rest)
    if name.isEmpty then .absent [c.expecting "key".toList]
    else if next.rest.head? = some ':' then .found (name, c.pos) (next.past [':']) []
    else if name.head? = some '\x7d' then .absent [c.expecting "key".toList]
    else .absent [next.expecting (shown [':']), c.expecting "key".toList]

/-- The end of the text. -/
def finish : Rule Unit := do
  skip .anyLine
  if (← rest).isEmpty then return () else commit (expect "end of input".toList)

end Rule

end KeyMenu
