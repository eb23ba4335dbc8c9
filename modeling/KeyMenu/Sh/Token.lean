import KeyMenu.Sh.Word
import KeyMenu.Table

/-!
# Tokens of command texts

A command text is read as a shell reads it: operators, redirections and words (`tokens`). A document
that follows a line becomes the word after its redirection. Where a text breaks off inside a quote
or a bracket, the last token is `Token.broken`, so that the lines before it still count. Each token
goes with the text after it, because what a line does may change how the next one is read.
-/

namespace KeyMenu.Sh

/-- Where input comes from or output goes to. -/
inductive Direction
  | input
  | output
  | overwrite
  | append
  | both
  | copyIn
  | copyOut
  | document
  | line
  | everything (appends : Bool)
  deriving DecidableEq

/-- The stream that is redirected: one of a number, or a new one whose number a variable is
given. -/
inductive StreamName
  | number (n : Nat)
  | named (name : Text)
  deriving DecidableEq

/-- A token of a command text; a word and an expression know their line. The text after a document's
redirection is that document. -/
inductive Token
  | word (w : Word) (line : Nat)
  | operator (text : Text)
  | redirect (stream : StreamName) (direction : Direction)
  | calculation (expression : Text) (line : Nat)
  | broken
  deriving DecidableEq

/-- How a text is read: by which shell, and whether brackets may begin groups of patterns. -/
structure Reading where
  dialect : Dialect
  groups : Bool
  deriving DecidableEq

/-- The operators, longer ones first. -/
def operators (dialect : Dialect) : List Text :=
  ((if dialect = .bash then [";;&", ";&", "|&"] else []) ++
    ["&&", "||", ";;", ";", "&", "|", "(", ")", "\n"]).map String.toList

/-- The redirections, longer ones first. -/
def redirections (dialect : Dialect) : List (Text × Direction) :=
  (if dialect = .bash then
    [("<<<".toList, .line), ("&>>".toList, .everything true), ("&>".toList, .everything false)]
    else []) ++
    [(">&".toList, .copyOut), ("<&".toList, .copyIn), (">>".toList, .append),
      (">|".toList, .overwrite), ("<>".toList, .both), ("<<".toList, .document),
      (">".toList, .output), ("<".toList, .input)]

/-- The name in braces at the beginning of a text, to which the number of a new stream is given, and
what follows it. -/
def streamVariable? (t : Text) : Option (Text × Text) :=
  match t with
  | '\x7b' :: rest =>
      let name := rest.takeWhile isNameChar
      match rest.dropWhile isNameChar with
      | '\x7d' :: after => if isName name then some (name, after) else none
      | _ => none
  | _ => none

/-- A redirection, perhaps with the stream that it redirects. -/
def redirection? (dialect : Dialect) (t : Text) : Option (StreamName × Direction × Text) :=
  let number := t.takeWhile Char.isDigit
  let named := if dialect = .bash then streamVariable? t else none
  let sign := (named.map Prod.snd).getD (t.dropWhile Char.isDigit)
  let isProcess := dialect = .bash && [['<', '('], ['>', '(']].contains (sign.take 2)
  if isProcess || (dialect = .dash && 1 < number.length) then none
  else
    let isBare := number.isEmpty && named.isNone
    let known := (redirections dialect).find? fun (text, direction) =>
      text.isPrefixOf sign && (isBare || !(direction matches .everything _))
    known.map fun (text, direction) =>
      let standard := if sign.head? = some '<' then 0 else 1
      let stream := match named with
        | some (name, _) => StreamName.named name
        | none => .number (if number.isEmpty then standard else digitsValue number)
      (stream, direction, sign.drop text.length)

/-! ### Documents -/

/-- The lines up to the one that ends a document, and the text after that line. Tabs at the
beginning of lines do not count where `strips`. -/
def documentLines (limit : Text) (strips : Bool) : Nat → Text → Text × Text
  | 0, t => (t, [])
  | _ + 1, [] => ([], [])
  | fuel + 1, t =>
      let first := t.takeWhile (· ≠ '\n')
      let first := if strips then first.dropWhile (· == '\t') else first
      let rest := (t.dropWhile (· ≠ '\n')).tail
      if first = limit then ([], rest)
      else
        let (others, after) := documentLines limit strips fuel rest
        (first ++ '\n' :: others, after)

/-- The number of lines that end in a text. -/
def lineEnds (t : Text) : Nat := t.count '\n'

/-- Reads the limit of a document at the beginning of a text, and takes the document away from
behind the line: its word, the text without both, and the number of its lines. -/
def document? (dialect : Dialect) (t : Text) : Option (Word × Text × Nat) := do
  let strips := t.head? = some '-'
  let t := (if strips then t.tail else t).dropWhile fun c => c == ' ' || c == '\t'
  let (w, rest) ← Word.read? dialect false .word t
  guard !w.isEmpty
  let (limit, isFixed) ← Word.fixed? w
  let line := rest.takeWhile (· ≠ '\n')
  let below := (rest.dropWhile (· ≠ '\n')).tail
  let (text, after) := documentLines limit strips (below.length + 1) below
  let document ← if isFixed then some (Word.ofLiteral text) else Word.ofDocument? dialect text
  return (document, line ++ (if rest.contains '\n' then '\n' :: after else []),
    lineEnds below - lineEnds after)

/-! ### Texts -/

/-- The expression in double brackets at the beginning of a text, and what follows it. -/
def expressionAt? (dialect : Dialect) : Text → Option (Text × Text)
  | '(' :: rest =>
      if dialect = .bash then (closedBy dialect false ')' rest).bind fun (inside, rest) =>
        (calculation? dialect inside).map fun expression => (expression, rest)
      else none
  | _ => none

/-- What comes next: anything, a part of a condition between double brackets, or a regular
expression in it. -/
inductive Expected
  | anything
  | condition
  | expression
  deriving DecidableEq

/-- What comes after a word. -/
def Expected.after (e : Expected) (w : Word) : Expected :=
  match w.bare? with
  | some ['[', '['] => .condition
  | some [']', ']'] => .anything
  | some ['=', '~'] => if e = .condition then .expression else e
  | _ => if e = .expression then .condition else e

/-- The token cannot stand between the brackets of elements. -/
def Token.isForeign : Token → Bool
  | .word _ _ => false
  | .operator text => text ≠ ['\n']
  | .broken => false
  | _ => true

/-- The elements up to the bracket that closes them, with what follows it. Where something foreign
stands among them, or no bracket closes them, they are all up to the end of that line, with a sign
that no elements have. -/
def elementsIn (isForeign : Text → Bool) (t : Text) : Text × Text :=
  let lines := t.splitBy fun a _ => a ≠ '\n'
  let starts := (List.range lines.length).map fun n => (lines.take (n + 1)).flatten
  let spoilt : Text × Text :=
    match starts.find? isForeign with
    | some start =>
        let here := if start.getLast? = some '\n' then start.dropLast else start
        (here ++ [';'], t.drop here.length)
    | none => (t ++ [';'], [])
  match closedBy .bash false ')' t with
  | some (list, after) => if isForeign list then spoilt else (list, after)
  | none => spoilt

/-- The tokens of a text with the texts after them, from a line on; `owed` lines have been taken out
of the text further on in the line. -/
def tokensFrom (r : Reading) : Nat → Expected → Nat → Nat → Text → List (Token × Text)
  | 0, _, _, _, _ => [(.broken, [])]
  | _ + 1, _, _, _, [] => []
  | fuel + 1, e, line, owed, c :: rest =>
      let go (e : Expected) (token : Token) (after : Text) : List (Token × Text) :=
        let used := (c :: rest).take (rest.length + 1 - after.length)
        (token, after) :: tokensFrom r fuel e (line + lineEnds used) owed after
      if c = ' ' || c = '\t' then tokensFrom r fuel e line owed rest
      else if c = '\\' && rest.head? = some '\n' then tokensFrom r fuel e (line + 1) owed rest.tail
      else if c = '#' then tokensFrom r fuel e line owed (rest.dropWhile (· ≠ '\n'))
      else if c = '\n' then
        (.operator ['\n'], rest) :: tokensFrom r fuel e (line + 1 + owed) 0 rest
      else if e = .expression && r.dialect = .bash then
        match Word.read? r.dialect r.groups .expression (c :: rest) with
        | some ([], _) => [(.broken, [])]
        | some (w, after) => go (Expected.condition.after w) (.word w line) after
        | none => [(.broken, [])]
      else
        match expressionAt? r.dialect (c :: rest), redirection? r.dialect (c :: rest),
            (operators r.dialect).find? (·.isPrefixOf (c :: rest)) with
        | some (expression, rest), _, _ => go e (.calculation expression line) rest
        | none, some (stream, .document, after), _ =>
            match document? r.dialect after with
            | some (w, after, lines) =>
                (.redirect stream .document, after) :: (.word w line, after) ::
                  tokensFrom r fuel e line (owed + lines) after
            | none => [(.broken, [])]
        | none, some (stream, direction, rest), _ => go e (.redirect stream direction) rest
        | none, none, some sign => go e (.operator sign) ((c :: rest).drop sign.length)
        | none, none, none =>
            match Word.read? r.dialect r.groups .word (c :: rest) with
            | some (w, '(' :: after) =>
                if r.dialect = .bash && w.opensElements then
                  let isForeign (t : Text) : Bool :=
                    (tokensFrom r fuel .anything 0 0 t).any fun (token, _) => token.isForeign
                  let (list, after) := elementsIn isForeign after
                  go e (.word (w ++ [.elements list]) line) after
                else go (e.after w) (.word w line) ('(' :: after)
            | some (w, after) => go (e.after w) (.word w line) after
            | none => [(.broken, [])]

/-- The tokens of a text with the texts after them. -/
def tokensWithRests (r : Reading) (line : Nat) (t : Text) : List (Token × Text) :=
  tokensFrom r (t.length + 1) .anything line 0 t

/-- The tokens of a text. -/
def tokens (dialect : Dialect) (t : Text) : List Token :=
  (tokensWithRests ⟨dialect, dialect = .bash⟩ 1 t).map Prod.fst

/-- The token may stand between the brackets of elements. -/
def Token.isElement : Token → Bool
  | .word _ _ => true
  | .operator text => text = ['\n']
  | _ => false

/-- All elements that a word gives to a variable can be read. -/
def Word.hasElements (w : Word) : Bool :=
  w.all fun
    | .elements list => (tokens .bash list).all Token.isElement
    | _ => true

/-! ### Nicknames -/

/-- The words after which a command begins. -/
def leadingWords : List String :=
  ["if", "then", "elif", "else", "while", "until", "do", "!", "\x7b", "time", "coproc"]

/-- What a nickname stands for is put in its place wherever a command begins; `used` are the
nicknames inside whose text this is. After a text that ends in a blank the next word may be one
too. -/
def withNicknames (r : Reading) (nicknames : Table Text) : Nat → List Text → Bool →
    List (Token × Text) → List (Token × Text)
  | 0, _, _, ts => ts
  | _ + 1, _, _, [] => []
  | fuel + 1, used, begins, (token, after) :: rest =>
      match token with
      | .operator sign =>
          (token, after) :: withNicknames r nicknames fuel used (sign != [')']) rest
      | .word w line =>
          let name := if begins then w.bare? else none
          match name.bind (fun n => if used.contains n then none else
              (Table.get? nicknames n).map (n, ·)) with
          | some (n, text) =>
              let inner := (tokensWithRests r line text).map fun (token, _) => (token, after)
              let inner := withNicknames r nicknames fuel (n :: used) true inner
              let goesOn := text.getLast?.any fun c => c == ' ' || c == '\t'
              inner ++ withNicknames r nicknames fuel used goesOn rest
          | none =>
              let leads := begins && leadingWords.any fun word => w.bare? == some word.toList
              let assigns := begins && (w.head?.any fun
                | .literal false t => t.all isNameStart
                | _ => false) && w.contains (.literal false ['='])
              (token, after) :: withNicknames r nicknames fuel used (leads || assigns) rest
      | .redirect _ _ =>
          match rest with
          | target :: rest =>
              (token, after) :: target :: withNicknames r nicknames fuel used begins rest
          | [] => [(token, after)]
      | _ => (token, after) :: withNicknames r nicknames fuel used false rest

end KeyMenu.Sh
