import KeyMenu.Sh.Digits
import KeyMenu.Sh.Octet

/-!
# Words of command texts

A word of a command text is made of pieces, each plain or quoted (`Piece`). A dollar sign begins a
parameter, the output of commands or a calculation. `Word.read?` reads the word at the beginning of
a text; one with an open quote or bracket is none. What stands beside a parameter is kept as text
(`Change`), because it is a word of its own that is read when it is needed.
-/

namespace KeyMenu.Sh

/-- The two shells differ in what they understand and in a few statuses. -/
inductive Dialect
  | dash
  | bash
  deriving DecidableEq

/-- What is done to the value of a parameter. With `forEmpty` an empty value counts as none. -/
inductive Change
  | plain
  | length
  | orElse (forEmpty : Bool) (word : Text)
  | orAssign (forEmpty : Bool) (word : Text)
  | orRefuse (forEmpty : Bool)
  | instead (forEmpty : Bool) (word : Text)
  | without (atEnd longest : Bool) (pattern : Text)
  | slice (start : Text) (count : Option Text)
  | exchange (everywhere : Bool) (pattern replacement : Text)
  | cased (toCapitals everywhere : Bool) (pattern : Text)
  | transformed (letter : Char)
  | namesLike (isOne : Bool)
  | senseless
  deriving DecidableEq

/-- A parameter: its name, with a subscript perhaps, whether its value is the name of another one,
and what is done to the value. -/
structure Parameter where
  name : Text
  isIndirect : Bool
  change : Change
  deriving DecidableEq

/-- A piece of a word. A `feed` is the name of a file that holds the output of commands, or that
they read; and the elements that a variable is given are read when they are needed. -/
inductive Piece
  | literal (isQuoted : Bool) (text : Text)
  | parameter (isQuoted : Bool) (p : Parameter)
  | output (isQuoted : Bool) (script : Text)
  | feed (isRead : Bool) (script : Text)
  | elements (list : Text)
  | calculation (isQuoted : Bool) (expression : Text)
  deriving DecidableEq

/-- A word: its pieces. -/
abbrev Word := List Piece

/-- A letter or an underscore. -/
def isNameStart (c : Char) : Bool := c.isAlpha || c == '_'

/-- A letter, a digit or an underscore. -/
def isNameChar (c : Char) : Bool := c.isAlphanum || c == '_'

/-- The name of a variable. -/
def isName (t : Text) : Bool := t.head?.any isNameStart && t.all isNameChar

/-- The parameters that are written with one sign. -/
def isSpecial (c : Char) : Bool := c.isDigit || "?#$!@*-".toList.contains c

/-! ### Brackets -/

/-- What closes what begins with the given signs: the signs that open, those that close, and
whether a single quote is a plain sign inside. -/
def opening (dialect : Dialect) (isQuoted : Bool) (close : Char) : Text → Option
    (Text × Char × Bool)
  | '"' :: _ => some (['"'], '"', true)
  | '\x60' :: _ => some (['\x60'], '\x60', true)
  | '$' :: '(' :: _ => some (['$', '('], ')', false)
  | '$' :: '\x7b' :: _ => some (['$', '\x7b'], '\x7d', isQuoted && dialect ≠ .bash)
  | '(' :: _ => if close = ')' then some (['('], ')', false) else none
  | _ => none

/-- Where the reader of a script stands: how many cases are open, in which a bracket may end a
pattern, whether a command may begin here, and the letters of the word so far. -/
structure Standing where
  cases : Nat
  begins : Bool
  word : Text

namespace Standing

/-- The words after which a command may begin. -/
def leading : List String :=
  ["if", "then", "elif", "else", "while", "until", "do", "!", "\x7b", "in"]

/-- Past one more sign. -/
def past (p : Standing) (c : Char) : Standing :=
  if !" \t\n;&|()<>".toList.contains c then { p with word := p.word ++ [c] }
  else
    let word := String.ofList p.word
    let cases := if p.begins && word = "case" then p.cases + 1
      else if p.begins && word = "esac" then p.cases - 1
      else p.cases
    let begins := if p.word.isEmpty then p.begins else p.begins && leading.contains word
    ⟨cases, begins || "\n;&|()".toList.contains c, []⟩

/-- At the beginning of a script. -/
def atBeginning : Standing := ⟨0, true, []⟩

end Standing

/-- The text up to the sign that closes, and the text after it. What is opened before is closed
before, and between single quotes or in a comment no sign opens or closes anything. -/
def upTo (dialect : Dialect) : Nat → Bool → Char → Standing → Text → Option (Text × Text)
  | 0, _, _, _, _ => none
  | _ + 1, _, _, _, [] => none
  | fuel + 1, isQuoted, close, p, c :: rest =>
      let next := p.past c
      if c = close && (c ≠ ')' || next.cases = 0) then some ([], rest)
      else if c = '\\' then
        (upTo dialect fuel isQuoted close next rest.tail).map fun (t, after) =>
          (c :: rest.take 1 ++ t, after)
      else if c = '#' && close = ')' && p.word.isEmpty then
        let comment := rest.takeWhile (· ≠ '\n')
        (upTo dialect fuel isQuoted close p (rest.dropWhile (· ≠ '\n'))).map fun (t, after) =>
          (c :: comment ++ t, after)
      else if c = '\x27' && !isQuoted then do
        let (inside, rest) ← Text.splitFirst ['\x27'] rest
        let (t, after) ← upTo dialect fuel isQuoted close next rest
        return (c :: inside ++ '\x27' :: t, after)
      else
        match opening dialect isQuoted close (c :: rest) with
        | none => (upTo dialect fuel isQuoted close next rest).map fun (t, after) => (c :: t, after)
        | some (signs, inner, innerQuoted) => do
            let (inside, rest) ←
              upTo dialect fuel innerQuoted inner .atBeginning ((c :: rest).drop signs.length)
            let (t, after) ← upTo dialect fuel isQuoted close next rest
            return (signs ++ inside ++ inner :: t, after)

/-- The text up to the sign that closes, with enough fuel. -/
def closedBy (dialect : Dialect) (isQuoted : Bool) (close : Char) (t : Text) : Option
    (Text × Text) :=
  upTo dialect (t.length + 1) isQuoted close .atBeginning t

/-! ### Parameters -/

/-- What stands between the name of a parameter and the brace that closes. -/
def Change.ofText (dialect : Dialect) : Text → Change
  | [] => .plain
  | ':' :: '-' :: word => .orElse true word
  | '-' :: word => .orElse false word
  | ':' :: '=' :: word => .orAssign true word
  | '=' :: word => .orAssign false word
  | ':' :: '?' :: _ => .orRefuse true
  | '?' :: _ => .orRefuse false
  | ':' :: '+' :: word => .instead true word
  | '+' :: word => .instead false word
  | '#' :: '#' :: pattern => .without false true pattern
  | '#' :: pattern => .without false false pattern
  | '%' :: '%' :: pattern => .without true true pattern
  | '%' :: pattern => .without true false pattern
  | t =>
      if dialect = .dash then .senseless
      else
        match t with
        | ':' :: range =>
            match Text.splitFirst [':'] range with
            | some (start, count) => .slice start (some count)
            | none => .slice range none
        | '/' :: '/' :: t =>
            let (pattern, replacement) := (Text.splitFirst ['/'] t).getD (t, [])
            .exchange true pattern replacement
        | '/' :: t =>
            let (pattern, replacement) := (Text.splitFirst ['/'] t).getD (t, [])
            .exchange false pattern replacement
        | '^' :: '^' :: pattern => .cased true true pattern
        | '^' :: pattern => .cased true false pattern
        | ',' :: ',' :: pattern => .cased false true pattern
        | ',' :: pattern => .cased false false pattern
        | ['@', letter] => if "UuLQEPAKak".toList.contains letter then .transformed letter
            else .senseless
        | _ => .senseless

/-- The name of a parameter and what follows it. -/
def parameterName : Text → Text × Text
  | [] => ([], [])
  | c :: rest =>
      if c.isDigit then ((c :: rest).takeWhile Char.isDigit, (c :: rest).dropWhile Char.isDigit)
      else if isSpecial c then ([c], rest)
      else ((c :: rest).takeWhile isNameChar, (c :: rest).dropWhile isNameChar)

/-- The name of a parameter with what stands in brackets behind it, and what follows. -/
def subscriptedName (dialect : Dialect) (t : Text) : Text × Text :=
  let (name, after) := parameterName t
  match after with
  | '[' :: rest =>
      match if dialect = .bash && isName name then closedBy dialect false ']' rest else none with
      | some (key, after) => (name ++ '[' :: key ++ [']'], after)
      | none => (name, after)
  | after => (name, after)

/-- The parameter between braces. -/
def braced (dialect : Dialect) (isQuoted : Bool) (t : Text) : Piece :=
  match t with
  | '#' :: c :: rest =>
      let (name, after) := subscriptedName dialect (c :: rest)
      if after.isEmpty && !name.isEmpty then .parameter isQuoted ⟨name, false, .length⟩
      else .parameter isQuoted ⟨['#'], false, .ofText dialect (c :: rest)⟩
  | '!' :: c :: rest =>
      let (name, after) := subscriptedName dialect (c :: rest)
      if dialect ≠ .bash || !(isNameStart c || c.isDigit || c == '@' || c == '*' || c == '#') then
        .parameter isQuoted ⟨['!'], false, .ofText dialect (c :: rest)⟩
      else if after = ['*'] then .parameter isQuoted ⟨name, false, .namesLike true⟩
      else if after = ['@'] then .parameter isQuoted ⟨name, false, .namesLike false⟩
      else .parameter isQuoted ⟨name, true, .ofText dialect after⟩
  | t =>
      let (name, after) := subscriptedName dialect t
      if name.isEmpty then .parameter isQuoted ⟨name, false, .senseless⟩
      else .parameter isQuoted ⟨name, false, .ofText dialect after⟩

/-- The expression, if what stands between the brackets of an output is one more pair of
brackets. -/
def calculation? (dialect : Dialect) : Text → Option Text
  | '(' :: t =>
      match closedBy dialect false ')' t with
      | some (inside, []) => some inside
      | _ => none
  | _ => none

/-- A script between back quotes, where a backslash protects a few signs from the shell outside. -/
def unprotected : Text → Text
  | '\\' :: c :: rest =>
      if "$\x60\\".toList.contains c then c :: unprotected rest
      else '\\' :: c :: unprotected rest
  | c :: rest => c :: unprotected rest
  | [] => []

/-- What a dollar sign or a back quote begins. -/
def introduced (dialect : Dialect) (isQuoted : Bool) : Text → Option (Piece × Text)
  | '\x60' :: rest => do
      let (script, rest) ← closedBy dialect true '\x60' rest
      return (.output isQuoted (unprotected script), rest)
  | '$' :: '\x7b' :: rest => do
      let (inside, rest) ← closedBy dialect (isQuoted && dialect ≠ .bash) '\x7d' rest
      return (braced dialect isQuoted inside, rest)
  | '$' :: '(' :: rest => do
      let (script, rest) ← closedBy dialect false ')' rest
      match calculation? dialect script with
      | some expression => return (.calculation isQuoted expression, rest)
      | none =>
          if dialect = .dash && script.head? = some '(' then none
          else return (.output isQuoted script, rest)
  | '$' :: '[' :: rest =>
      if dialect = .bash then do
        let (expression, rest) ← closedBy dialect false ']' rest
        return (.calculation isQuoted expression, rest)
      else some (.literal isQuoted ['$'], '[' :: rest)
  | '$' :: c :: rest =>
      if isNameStart c then
        let t := c :: rest
        some (.parameter isQuoted ⟨t.takeWhile isNameChar, false, .plain⟩, t.dropWhile isNameChar)
      else if isSpecial c then some (.parameter isQuoted ⟨[c], false, .plain⟩, rest)
      else some (.literal isQuoted ['$'], c :: rest)
  | c :: rest => some (.literal isQuoted [c], rest)
  | [] => none

/-! ### Quotes -/

/-- Where a text is read as between double quotes: between them indeed, in a document, or beside a
parameter that stands between them. -/
inductive Enclosure
  | quotes
  | document
  | braces
  deriving DecidableEq

/-- The signs whose meaning a backslash takes away there. -/
def Enclosure.escapable (e : Enclosure) (c : Char) : Bool :=
  "$\x60\\".toList.contains c ||
    match e with
    | .quotes => c == '"'
    | .document => false
    | .braces => c == '"' || c == '\x7d'

/-- The pieces up to the double quote that closes, or up to the end. -/
def enclosed (dialect : Dialect) (e : Enclosure) : Nat → Text → Option (Word × Text)
  | 0, _ => none
  | _ + 1, [] => if e = .quotes then none else some ([], [])
  | fuel + 1, '\\' :: '\n' :: rest => enclosed dialect e fuel rest
  | fuel + 1, '\\' :: c :: rest => do
      let (w, after) ← enclosed dialect e fuel rest
      return (.literal true (if e.escapable c then [c] else ['\\', c]) :: w, after)
  | fuel + 1, c :: rest =>
      if c = '"' && e = .quotes then some ([], rest)
      else if c = '"' && e = .braces then enclosed dialect e fuel rest
      else if c = '$' || c = '\x60' then do
        let (piece, rest) ← introduced dialect true (c :: rest)
        let (w, after) ← enclosed dialect e fuel rest
        return (piece :: w, after)
      else do
        let (w, after) ← enclosed dialect e fuel rest
        return (.literal true [c] :: w, after)

/-- The signs that a backslash and what follows it stand for between single quotes after a dollar
sign, and the rest. -/
def dollarEscape : Text → Text × Text
  | 'a' :: rest => (['\x07'], rest)
  | 'b' :: rest => (['\x08'], rest)
  | 'e' :: rest => (['\x1b'], rest)
  | 'E' :: rest => (['\x1b'], rest)
  | 'f' :: rest => (['\x0c'], rest)
  | 'n' :: rest => (['\n'], rest)
  | 'r' :: rest => (['\r'], rest)
  | 't' :: rest => (['\t'], rest)
  | 'v' :: rest => (['\x0b'], rest)
  | 'c' :: c :: rest => ([Char.ofNat (c.toNat % 32)], rest)
  | 'x' :: rest =>
      match digitsOf 16 2 rest with
      | some (n, rest) => ([Char.ofNat n], rest)
      | none => ("\\x".toList, rest)
  | 'u' :: rest =>
      match digitsOf 16 4 rest with
      | some (n, rest) => (octets [Char.ofNat n], rest)
      | none => ("\\u".toList, rest)
  | 'U' :: rest =>
      match digitsOf 16 8 rest with
      | some (n, rest) => (octets [Char.ofNat n], rest)
      | none => ("\\U".toList, rest)
  | c :: rest =>
      match digitsOf 8 3 (c :: rest) with
      | some (n, rest) => ([Char.ofNat (n % 256)], rest)
      | none => (if "\\\x27\"?".toList.contains c then [c] else ['\\', c], rest)
  | [] => (['\\'], [])

/-- The text between single quotes after a dollar sign, where a backslash introduces a sign. -/
def dollarQuoted : Nat → Text → Option (Text × Text)
  | 0, _ => none
  | _ + 1, [] => none
  | fuel + 1, c :: rest =>
      if c = '\x27' then some ([], rest)
      else
        let (signs, rest) := if c = '\\' then dollarEscape rest else ([c], rest)
        (dollarQuoted fuel rest).map fun (t, after) => (signs ++ t, after)

/-! ### Words -/

/-- The signs that end a word. -/
def endsWord (c : Char) : Bool := " \t\n;&|()<>".toList.contains c

namespace Word

/-- How far a word goes: up to a sign that ends it, up to the end, or, as a regular expression, up
to a sign that ends it outside of brackets. -/
inductive Reach
  | word
  | whole
  | expression
  deriving DecidableEq

/-- The pieces of a word; where there are `groups`, a bracket after certain signs begins a group of
patterns. -/
def readFrom (dialect : Dialect) (groups : Bool) (reach : Reach) : Nat → Text → Option (Word × Text)
  | 0, _ => none
  | _ + 1, [] => some ([], [])
  | fuel + 1, '\\' :: '\n' :: rest => readFrom dialect groups reach fuel rest
  | fuel + 1, '\\' :: c :: rest => do
      let (w, after) ← readFrom dialect groups reach fuel rest
      return (.literal true [c] :: w, after)
  | fuel + 1, c :: rest =>
      if c = '\x27' then do
        let (inside, rest) ← Text.splitFirst ['\x27'] rest
        let (w, after) ← readFrom dialect groups reach fuel rest
        return (.literal true inside :: w, after)
      else if c = '"' then do
        let (inside, rest) ← enclosed dialect .quotes (rest.length + 1) rest
        let (w, after) ← readFrom dialect groups reach fuel rest
        return (.literal true [] :: inside ++ w, after)
      else if c = '$' && dialect = .bash && rest.head? = some '\x27' then do
        let (inside, rest) ← dollarQuoted rest.length rest.tail
        let (w, after) ← readFrom dialect groups reach fuel rest
        return (.literal true inside :: w, after)
      else if c = '$' && dialect = .bash && rest.head? = some '"' then
        readFrom dialect groups reach fuel rest
      else if c = '$' || c = '\x60' then do
        let (piece, rest) ← introduced dialect false (c :: rest)
        let (w, after) ← readFrom dialect groups reach fuel rest
        return (piece :: w, after)
      else if (c = '<' || c = '>') && dialect = .bash && rest.head? = some '(' &&
          reach ≠ .whole then do
        let (script, rest) ← closedBy dialect false ')' rest.tail
        let (w, after) ← readFrom dialect groups reach fuel rest
        return (.feed (c == '<') script :: w, after)
      else if groups && "?*+@!".toList.contains c && rest.head? = some '(' then do
        let (inside, rest) ← closedBy dialect false ')' rest.tail
        let (inner, _) ← readFrom dialect groups .whole fuel inside
        let (w, after) ← readFrom dialect groups reach fuel rest
        return (.literal false [c, '('] :: inner ++ .literal false [')'] :: w, after)
      else if reach = .expression && c = '(' then do
        let (inside, rest) ← closedBy dialect false ')' rest
        let (inner, _) ← readFrom dialect groups .whole fuel inside
        let (w, after) ← readFrom dialect groups reach fuel rest
        return (.literal false ['('] :: inner ++ .literal false [')'] :: w, after)
      else if endsWord c && reach ≠ .whole && !(reach = .expression && c = '|') then
        some ([], c :: rest)
      else do
        let (w, after) ← readFrom dialect groups reach fuel rest
        return (.literal false [c] :: w, after)

/-- The word at the beginning of a text. -/
def read? (dialect : Dialect) (groups : Bool) (reach : Reach) (t : Text) : Option (Word × Text) :=
  readFrom dialect groups reach (t.length + 1) t

/-- The word that a whole text is, as it stands beside a parameter. -/
def ofText? (dialect : Dialect) (isQuoted : Bool) (t : Text) : Option Word :=
  if isQuoted then (enclosed dialect .braces (t.length + 1) t).map Prod.fst
  else (readFrom dialect (dialect = .bash) .whole (t.length + 1) t).map Prod.fst

/-- A document, in which parameters count. -/
def ofDocument? (dialect : Dialect) (t : Text) : Option Word :=
  (enclosed dialect .document (t.length + 1) t).map Prod.fst

/-- The expression of a calculation, in which parameters count. -/
def ofExpression? (dialect : Dialect) (t : Text) : Option Word :=
  (enclosed dialect .braces (t.length + 1) t).map Prod.fst

/-- A word that is written without quotes or parameters. -/
def bare? (w : Word) : Option Text :=
  (w.mapM fun | Piece.literal false t => some t | _ => none).map List.flatten

/-- A word that is written without parameters, its quotes removed, and whether it has any. -/
def fixed? (w : Word) : Option (Text × Bool) :=
  (w.mapM fun | Piece.literal isQuoted t => some (t, isQuoted) | _ => none).map
    fun (pieces : List (Text × Bool)) => (pieces.flatMap Prod.fst, pieces.any Prod.snd)

/-- The word ends in an unquoted equals sign and begins as a name does, so that elements in brackets
may follow. -/
def opensElements (w : Word) : Bool :=
  w.getLast? = some (.literal false ['=']) &&
    w.head?.any fun | .literal false t => t.all isNameStart | _ => false

/-- The word has elements in brackets. -/
def holdsElements (w : Word) : Bool := w.any fun
  | .elements _ => true
  | _ => false

/-- The word begins with a name, perhaps with a subscript, and a sign that gives it a value. -/
def givesValue (w : Word) : Bool :=
  let isNamePart : Piece → Bool
    | .literal false t => t.all isNameChar
    | _ => false
  let isEqualsSign (p : Piece) : Bool := p = .literal false ['=']
  (w.head?.any fun | .literal false t => t.all isNameStart | _ => false) &&
    match w.dropWhile isNamePart with
    | .literal false ['+'] :: p :: _ => isEqualsSign p
    | .literal false ['['] :: rest => rest.any isEqualsSign
    | p :: _ => isEqualsSign p
    | [] => false

/-- A word that is a text as it stands. -/
def ofLiteral (t : Text) : Word := [.literal true t]

end Word

end KeyMenu.Sh
