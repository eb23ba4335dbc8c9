import KeyMenu.Sh.Snippet.Token

/-!
# Reading snippets

Texts between quotes may hold expressions (`readParts`), and expressions hold such texts. What binds
more firmly is read by a function of its own, from `readLoose` down to `readAtom`; `readStatements`
reads statements. `programOf` gives the statements of a snippet, or says where there are none.
-/

namespace KeyMenu.Sh.Snippet

open Reader

/-- What is read by functions that come later: what binds most loosely, what is assigned,
expressions between commas, what has a sign in front, what the firmer operators are used in, and
statements. -/
structure Layers where
  loose : Reader Expr
  assignment : Reader Expr
  commas : Reader (List Expr)
  unary : Reader Expr
  firm : Reader Expr
  statements : Reader (List Statement)

/-- Enough fuel for what stands one after the other. -/
def plenty : Nat := 1000000

/-- Reads on behind an expression as long as there is more that belongs to it. -/
def chained (more : Expr → Reader (Option Expr)) : Nat → Expr → Reader Expr
  | 0, left => return left
  | n + 1, left => do
      match ← more left with
      | some e => chained more n e
      | none => return left

/-- The key of an entry behind its brace, up to the brace that closes. -/
def readKey (r : Layers) : Reader Expr := do
  match plainKey? (← get).rest with
  | some (name, after) =>
      goOn after
      return .text name
  | none =>
      let e ← r.loose
      expect "\x7d"
      return e

/-- Arguments up to the bracket that closes. -/
def readArguments (r : Layers) : Reader (List Expr) := do
  if ← passIf ")" then return []
  else
    let e ← r.loose
    expect ")"
    match e with
    | .list es => return es
    | e => return [e]

/-- Indices, keys and arguments behind an expression. -/
def readSubscripts (r : Layers) : Nat → Option Quote → Expr → Reader Expr
  | 0, _, _ => fail
  | fuel + 1, q, e => do
      let t ← if q.isSome then pure (← get).rest else Reader.rest
      let isSubscripted : Bool := match e with
        | .item _ _ => true
        | .entry _ _ => true
        | .apply _ _ => true
        | _ => false
      let byIndex (after : Text) : Reader Expr := do
        goOn after
        let i ← r.loose
        expect "]"
        readSubscripts r fuel q (.item (.dereference '@' e) i)
      let byKey (after : Text) : Reader Expr := do
        goOn after
        readSubscripts r fuel q (.entry (.dereference '%' e) (← readKey r))
      match t with
      | '-' :: '>' :: after =>
          let after := if q.isSome then after else skipBlanks (after.length + 1) after
          match after with
          | '[' :: after => if q.all fun q => beginsIndex q after then byIndex after else return e
          | '\x7b' :: after => byKey after
          | '(' :: after =>
              if q.isSome then return e
              else
                goOn after
                readSubscripts r fuel q (.apply e (← readArguments r))
          | '@' :: '*' :: after =>
              goOn after
              return .dereference '@' e
          | '%' :: '*' :: after =>
              goOn after
              return .dereference '%' e
          | '$' :: '*' :: after =>
              goOn after
              return .dereference '$' e
          | c :: after =>
              if q.isNone && (c.isAlpha || c == '_') then
                let (name, after) := nameRead (after.length + 2) (c :: after)
                goOn after
                let arguments ← if after.head? = some '(' then do
                    goOn (after.drop 1)
                    readArguments r
                  else pure []
                readSubscripts r fuel q (.method e name arguments)
              else return e
          | [] => return e
      | '[' :: after =>
          if isSubscripted && q.all fun q => beginsIndex q after then byIndex after else return e
      | '\x7b' :: after =>
          if isSubscripted && !q.any (·.isPattern) then byKey after else return e
      | '(' :: after =>
          if isSubscripted && q.isNone then
            goOn after
            readSubscripts r fuel q (.apply e (← readArguments r))
          else return e
      | _ => return e

/-- A sign and the name or the expression behind it. -/
def readBare (r : Layers) : Nat → Char → Reader Expr
  | 0, _ => fail
  | fuel + 1, sign => do
      match (← get).rest.drop 1 with
      | '\x7b' :: rest =>
          match plainKey? rest with
          | some (name, after) =>
              if name.head? = some '-' then fail
              goOn after
              return .variable sign name
          | none =>
              match rest with
              | '^' :: after =>
                  goOn ((after.dropWhile (· != '\x7d')).drop 1)
                  return .variable sign ('^' :: after.takeWhile (· != '\x7d'))
              | rest =>
                  if rest.head?.any fun c => c.isDigit then
                    goOn ((rest.dropWhile Char.isDigit).drop 1)
                    return .variable sign (rest.takeWhile Char.isDigit)
                  else
                    goOn rest
                    let body ← r.statements
                    expect "\x7d"
                    match body with
                    | [.expression _ e] => return .dereference sign e
                    | body => return .dereference sign (.block body)
      | '$' :: rest =>
          if rest.head?.any fun c => isNameSign c || c == '\x7b' || c == '$' || c == ':' then
            goOn ('$' :: rest)
            return .dereference sign (← readBare r fuel '$')
          else
            goOn rest
            return .variable sign ['$']
      | '^' :: c :: rest =>
          if c.isUpper then
            goOn rest
            return .variable sign ['^', c]
          else fail
      | ':' :: ':' :: rest =>
          let (name, rest) := nameRead (rest.length + 1) rest
          goOn rest
          return .variable sign name
      | c :: rest =>
          if c.isDigit then
            goOn ((c :: rest).dropWhile Char.isDigit)
            return .variable sign ((c :: rest).takeWhile Char.isDigit)
          else if isNameSign c then
            let (name, rest) := nameRead (rest.length + 2) (c :: rest)
            goOn rest
            return .variable sign (if "main::".toList.isPrefixOf name then name.drop 6 else name)
          else if specialNames.contains c || "<>]".toList.contains c then
            goOn rest
            return .variable sign [c]
          else fail
      | [] => fail

/-- What begins with one of the signs of variables; inside of a text no blanks stand in it. -/
def readSigned (r : Layers) (q : Option Quote) : Reader Expr := do
  match (← get).rest with
  | '$' :: '#' :: rest =>
      match rest with
      | '\x7b' :: _ =>
          goOn (rest.drop 1)
          let e ← r.loose
          expect "\x7d"
          return .lastIndex (.dereference '@' e)
      | '$' :: _ =>
          goOn rest
          return .lastIndex (.dereference '@' (← readBare r plenty '$'))
      | rest =>
          let (name, rest) := nameRead (rest.length + 1) rest
          goOn rest
          return .lastIndex (.variable '@' name)
  | sign :: rest =>
      let isWord := rest.head?.any fun c => isNameSign c || c == ':'
      let e ← readBare r plenty sign
      let direct (c : Char) : Expr := match e with
        | .variable _ name => .variable c name
        | .dereference _ inner => .dereference c inner
        | e => e
      let t ← if q.isSome then pure (← get).rest else if isWord || sign != '$' then rest'
        else pure (← get).rest
      match sign, t with
      | '$', '[' :: after =>
          if q.all fun q => beginsIndex q after then
            goOn after
            let i ← r.loose
            expect "]"
            readSubscripts r plenty q (.item (direct '@') i)
          else return e
      | '$', '\x7b' :: after =>
          if (q.any fun q => q.isPattern && (after.head?.any fun c => c.isDigit || c == ',')) then
            return e
          else
            goOn after
            readSubscripts r plenty q (.entry (direct '%') (← readKey r))
      | '@', '[' :: after =>
          if q.all fun q => beginsIndex q after || !q.isPattern then
            goOn after
            let i ← r.loose
            expect "]"
            return .items (direct '@') i
          else return e
      | '@', '\x7b' :: after =>
          if q.any (·.isPattern) then return e
          else
            goOn after
            return .entries (direct '%') (← readKey r)
      | _, _ => if sign = '$' then readSubscripts r plenty q e else return e
  | [] => fail
where
  /-- What is left behind blanks. -/
  rest' : Reader Text := Reader.rest

/-- The parts of a text with expressions in it. -/
def readParts (r : Layers) : Nat → Quote → Text → Reader (List Expr)
  | 0, _, _ => fail
  | fuel + 1, q, t => do
      let plain (signs rest : Text) : Reader (List Expr) := do
        match ← readParts r fuel q rest with
        | .text t :: parts => return .text (signs ++ t) :: parts
        | parts => return .text signs :: parts
      match t with
      | [] => return []
      | '\\' :: c :: rest =>
          match casing? c with
          | some name =>
              if name = "ucfirst".toList || name = "lcfirst".toList then
                match ← readParts r fuel q rest with
                | first :: parts => return .function name [first] :: parts
                | [] => return []
              else
                let inner := (Text.splitFirst "\\E".toList rest).getD (rest, [])
                let parts ← readParts r fuel q inner.1
                return .function name [.joined parts] :: (← readParts r fuel q inner.2)
          | none =>
              if c = 'E' then readParts r fuel q rest
              else if q.isPattern then plain ['\\', c] rest
              else
                let (signs, rest) := escape (c :: rest)
                plain signs rest
      | '$' :: rest =>
          let begins : Bool := match rest with
            | [] => false
            | c :: after =>
                if q.isPattern then
                  c.isAlpha || c == '_' || c == '\x7b' || c.isDigit || c == '&' ||
                    (c == '$' && after.head?.any fun d => d.isAlpha || d == '_' || d == '\x7b')
                else c.isAlphanum || c == '\x7b' || c == '$' || c == '#' || c == ':' ||
                  specialNames.contains c || (c == '^' && after.head?.any Char.isUpper)
          if begins then
            let outer ← get
            goOn t
            let e ← readSigned r (some q)
            let after := (← get).rest
            set outer
            return e :: (← readParts r fuel q after)
          else plain ['$'] rest
      | '@' :: rest =>
          let begins := rest.head?.any fun c => c.isAlpha || c == '_' || c == '\x7b' || c == '$'
          if begins then
            let outer ← get
            goOn t
            let e ← readSigned r (some q)
            let after := (← get).rest
            set outer
            return .joinedList e :: (← readParts r fuel q after)
          else plain ['@'] rest
      | c :: rest => plain [c] rest

/-- A text with expressions in it. -/
def readJoined (r : Layers) (q : Quote) (t : Text) : Reader Expr := do
  match ← readParts r plenty q t with
  | [] => return .text []
  | [.text t] => return .text t
  | parts => return .joined parts

/-- A pattern between signs, with its flags. -/
def readPattern (r : Layers) (sign : Char) (t : Text) : Reader Expr :=
  if sign = '\x27' then return .text t else readJoined r ⟨true⟩ t

/-- One argument of a function, or none. -/
def readOneArgument (r : Layers) : Reader (List Expr) := do
  let t ← rest
  if t.isEmpty then return []
  else if t.head? = some '(' then
    goOn (t.drop 1)
    readArguments r
  else
    let isOver : Bool := match operator? t with
      | some (s, _) => !(["\\", "-", "+", "!", "~", "[", "\x7b", "(", "<", "%", "&",
          "<<"].contains s) ||
          (["<", "%", "&", "-", "+", "<<"].contains s &&
            ((t.drop s.length).head?.all fun c => c == ' ' || c == '='))
      | none => false
    if isOver then return []
    else
      let e ← r.firm
      return [e]

/-- The arguments of a function that takes a list. -/
def readListArguments (r : Layers) : Reader (List Expr) := do
  let t ← rest
  if t.head? = some '(' then
    goOn (t.drop 1)
    readArguments r
  else r.commas

/-- A block between braces. -/
def readBlock (r : Layers) : Reader (List Statement) := do
  expect "\x7b"
  let body ← r.statements
  expect "\x7d"
  return body

/-- The body of a sieve and its arguments. -/
def readSieve (r : Layers) (kind : Sieve) : Reader Expr := do
  let t ← rest
  let hasBracket := t.head? = some '('
  if hasBracket then goOn (t.drop 1)
  let t ← rest
  let finish (body : Expr) : Reader Expr := do
    let arguments ← r.commas
    if hasBracket then expect ")"
    return .sieve kind body arguments
  if t.head? = some '\x7b' then
    let body ← readBlock r
    let _ ← passIf ","
    finish (.newFunction body)
  else if kind = .sort then
    let (name, after) ← word
    let follows := skipBlanks (after.length + 1) after
    match t with
    | '$' :: rest =>
        let after := rest.dropWhile isNameSign
        match skipBlanks (after.length + 1) after with
        | c :: _ =>
            if c = '@' || c = '(' then
              goOn after
              finish (.variable '$' (rest.takeWhile isNameSign))
            else finish (.list [])
        | [] => finish (.list [])
    | _ =>
        if !name.isEmpty && !isFunction name && (sieve? name).isNone && name ≠ "qw".toList &&
            (follows.head? = some '@' || (follows.head?.any fun c => c.isAlpha)) then
          goOn after
          finish (.reference (.variable '&' name))
        else finish (.list [])
  else if kind = .map || kind = .grep then
    let body ← r.assignment
    if !(← passIf ",") then fail
    finish (.newFunction [.expression 0 body])
  else
    let body ← r.assignment
    expect ","
    finish body

/-- The file to which something is shown, if one is named. -/
def readOutlet (r : Layers) : Reader (Option Expr) := do
  let t ← rest
  match t with
  | '\x7b' :: after =>
      goOn after
      let e ← r.loose
      expect "\x7d"
      return some e
  | '$' :: after =>
      let name := after.takeWhile isNameSign
      let behind := after.drop name.length
      let next := skipBlanks (behind.length + 1) behind
      let begins := next.head?.any fun c => c.isAlphanum || c == '"' || c == '\x27' || c == '$' ||
        c == '@'
      let isOperator := operatorWords.any (·.toList == next.takeWhile isNameSign)
      if !name.isEmpty && begins && !isOperator && behind.head? = some ' ' then
        goOn behind
        return some (.variable '$' name)
      else return none
  | _ =>
      let (name, after) ← word
      let next := skipBlanks (after.length + 1) after
      let isKnown := ["STDOUT", "STDERR", "STDIN"].any (·.toList == name)
      let isHandle := !name.isEmpty && name.all fun c => c.isUpper || c.isDigit || c == '_'
      let follows := next.head?.all fun c => !"(,.-=+".toList.contains c
      let isConstant := (← get).constants.contains name
      if isKnown || (isHandle && !isConstant && follows && !next.isEmpty &&
          next.head? ≠ some ';') then
        goOn after
        return some (.text name)
      else return none

/-- What is shown, and where. -/
def readShown (r : Layers) (kind : Showing) : Reader Expr := do
  let t ← rest
  let hasBracket := t.head? = some '('
  let before ← get
  if hasBracket then goOn (t.drop 1)
  let file ← readOutlet r
  let arguments ← r.commas
  if hasBracket then
    expect ")"
    match ← peek with
    | some s =>
        if ["x", ".", "*", "+", ",", "?", "["].contains s && file.isNone && s != "," then
          set before
          return .show kind none (← r.commas)
        else return .show kind file arguments
    | none => return .show kind file arguments
  else return .show kind file arguments

/-- Variables of one's own. -/
def readOwn (isShared : Bool) : Reader Expr := do
  let one : Reader (Char × Text) := do
    match ← rest with
    | sign :: after =>
        let (name, behind) := nameRead (after.length + 1) after
        if "$@%".toList.contains sign && !name.isEmpty then
          goOn behind
          return (sign, name)
        else if "undef".toList.isPrefixOf (sign :: after) then
          goOn ((sign :: after).drop 5)
          return ('$', [' '])
        else fail
    | [] => fail
  let t ← rest
  if t.head? = some '(' then
    goOn (t.drop 1)
    return .own isShared (← readNames one plenty) true
  else return .own isShared [← one] false
where
  /-- Names up to the bracket that closes. -/
  readNames (one : Reader (Char × Text)) : Nat → Reader (List (Char × Text))
    | 0 => fail
    | fuel + 1 => do
        if ← passIf ")" then return []
        let first ← one
        let _ ← passIf ","
        return first :: (← readNames one fuel)

/-- A list, some of whose items may be picked. -/
def readPicked (r : Layers) : Nat → Expr → Reader Expr
  | 0, _ => fail
  | fuel + 1, e => do
      let t ← rest
      match t with
      | '[' :: after =>
          goOn after
          let i ← r.loose
          expect "]"
          readPicked r fuel (.pick e i)
      | _ => return e

/-- What is put in place of what a pattern fits. -/
def readReplacement (r : Layers) (t : Text) : Reader Expr := do
  goOn (skipBlanks (t.length + 1) t)
  let (sign, p) ← readDelimited
  let by' ← if closing sign ≠ sign then do
      let next ← rest
      goOn next
      pure (← readDelimited).2
    else do
      goOn (sign :: (← get).rest)
      pure (← readDelimited).2
  let flags ← readFlags
  let p ← readPattern r sign p
  let value ← if flags.contains 'e' then do
      let outer ← get
      goOn by'
      let body ← r.statements
      set outer
      pure (.block body)
    else if sign = '\x27' then pure (.text by')
    else readJoined r ⟨false⟩ by'
  return .replace none p value flags

/-- The body of a function; a list of names in front of it takes the arguments. -/
def readFunctionBody (r : Layers) : Reader (List Statement) := do
  let t ← rest
  match t with
  | '(' :: after =>
      let inner := after.takeWhile (· != ')')
      if inner.any Char.isAlpha then
        let own ← readOwn false
        let body ← readBlock r
        return .expression 0 (.assign own none (.variable '@' ['_'])) :: body
      else
        goOn (after.drop (inner.length + 1))
        readBlock r
  | _ => readBlock r

/-- A text that is written below. -/
def readBelowQuoted (r : Layers) : Reader Expr := do
  let t := (← get).rest.drop 2
  let isIndented := t.head? = some '~'
  let t := if isIndented then t.drop 1 else t
  match t with
  | '"' :: rest =>
      let mark := rest.takeWhile (· != '"')
      goOn (rest.drop (mark.length + 1))
      let inner ← readBelow mark isIndented
      readJoined r ⟨false⟩ inner
  | '\x27' :: rest =>
      let mark := rest.takeWhile (· != '\x27')
      goOn (rest.drop (mark.length + 1))
      return .text (← readBelow mark isIndented)
  | rest =>
      let mark := rest.takeWhile isNameSign
      if mark.isEmpty then fail
      goOn (rest.drop mark.length)
      let inner ← readBelow mark isIndented
      readJoined r ⟨false⟩ inner

/-- What a word at the beginning of an expression begins. -/
def readWord (r : Layers) (name : Text) (after : Text) : Reader Expr := do
  let t := after
  let quoteFollows : Bool := match after with
    | [] => false
    | c :: _ =>
        let next := skipBlanks (after.length + 1) after
        if c = ' ' || c = '\t' || c = '\n' then
          next.head?.any fun c => !isNameSign c && c ≠ '=' && c ≠ ',' && c ≠ ';' &&
            c ≠ ')' && c ≠ '#'
        else !isNameSign c && c ≠ ',' && c ≠ ';' && c ≠ ')' &&
          !(c = '=' && ((after.drop 1).head?.all fun d => d == '>' || d == ' ' || d == '='))
  let quoted : Reader (Char × Text) := do
    goOn (skipBlanks (t.length + 1) t)
    readDelimited
  let leave (how : Leaving) : Reader Expr := do
    goOn t
    let (label, after) ← word
    if !label.isEmpty && label.all fun c => c.isUpper || c.isDigit || c == '_' then
      goOn after
      return .leave how label none
    else return .leave how [] none
  let named (name : Text) : Reader Expr := do
    goOn t
    let next ← rest
    let isUnary := unaryNames.any (·.toList == name)
    if nullaryNames.any (·.toList == name) then
      if next.head? = some '(' then
        goOn (next.drop 1)
        expect ")"
      return .function name []
    else if isUnary then return .function name (← readOneArgument r)
    else return .function name (← readListArguments r)
  match keyword? name with
  | some .plainText =>
      if quoteFollows then return .text (plainQuoted (← quoted).2) else other name t
  | some .joinedText =>
      if quoteFollows then
        let (_, inner) ← quoted
        readJoined r ⟨false⟩ inner
      else other name t
  | some .words =>
      let (_, inner) ← quoted
      let words := (inner.splitBy fun a b => isSpace a == isSpace b).filter fun w => !w.any isSpace
      readPicked r plenty (.list (words.map .text))
  | some .command =>
      let (_, inner) ← quoted
      return .command (← readJoined r ⟨false⟩ inner)
  | some .pattern =>
      let (sign, inner) ← quoted
      let p ← readPattern r sign inner
      return .pattern p (← readFlags)
  | some .fits =>
      if quoteFollows then
        let (sign, inner) ← quoted
        let p ← readPattern r sign inner
        return .fits none p (← readFlags)
      else other name t
  | some .replace => if quoteFollows then readReplacement r t else other name t
  | some .exchange => if quoteFollows then readExchange t else other name t
  | some (.own isShared) =>
      goOn t
      readOwn isShared
  | some .kept =>
      goOn t
      let mark := '#' :: Text.ofNat t.length
      match ← readOwn true with
      | .own _ names isList => return .own true (names.map fun (sign, name) =>
          (sign, name ++ mark)) isList
      | e => return e
  | some .saved =>
      goOn t
      return .saved (← r.unary)
  | some (.show kind) =>
      goOn t
      readShown r kind
  | some .function =>
      goOn t
      return .newFunction (← readFunctionBody r)
  | some .block =>
      goOn t
      if (← rest).head? = some '\x7b' then return .block (← readBlock r)
      else return .function "require".toList (← readOneArgument r)
  | some .trial =>
      goOn t
      if (← rest).head? = some '\x7b' then return .trial (← readBlock r)
      else return .function name (← readOneArgument r)
  | some .giveBack =>
      goOn t
      let es ← r.commas
      return .leave .giveBack [] (match es with
        | [] => none
        | [e] => some e
        | es => some (.list es))
  | some (.leave how) => leave how
  | some .nothing =>
      goOn t
      return .function name (← readOneArgument r)
  | some .here =>
      goOn t
      return .text "main".toList
  | some .program =>
      goOn t
      return .variable '$' ['0']
  | some .line =>
      goOn t
      return .integer 1
  | some .stream =>
      goOn t
      return .text name
  | none =>
      match sieve? name with
      | some kind =>
          let next := skipBlanks (t.length + 1) t
          let isSieve := ["map", "grep", "sort"].any (·.toList == name) ||
            next.head? = some '\x7b' || (next.head? = some '(' &&
              (skipBlanks next.length (next.drop 1)).head? = some '\x7b')
          if isSieve then
            goOn t
            readSieve r kind
          else other name t
      | none => if isFunction name then named name else other name t
where
  /-- White space. -/
  isSpace (c : Char) : Bool := c == ' ' || ('\t' ≤ c && c ≤ '\x0d')
  /-- A word that has no meaning of its own: a function that is defined, or a text. -/
  other (name t : Text) : Reader Expr := do
    goOn t
    let next ← rest
    let isKey := next.head? = some '=' && (next.drop 1).head? = some '>'
    if (← get).constants.contains name && !isKey then
      if (next.take 2) = ['(', ')'] then goOn (next.drop 2)
      return .call name []
    match next with
    | '(' :: after =>
        goOn after
        return .call name (← readArguments r)
    | '=' :: '>' :: _ => return .text name
    | '-' :: '>' :: _ => return .text name
    | ':' :: ':' :: after =>
        goOn after
        return .text name
    | c :: _ =>
        let isFile := name.all fun c => c.isUpper || c.isDigit || c == '_'
        let isWord := c.isAlphanum && (operator? next).isNone
        if (isWord || "$@\"\x27".toList.contains c) && !isFile then
          return .call name (← r.commas)
        else return .function name []
    | [] => return .function name []

/-- What has no parts that bind less firmly. -/
def readAtom (r : Layers) : Reader Expr := do
  let t ← rest
  match t with
  | [] => fail
  | c :: after =>
      if c.isDigit || (c = '.' && after.head?.any Char.isDigit) then
        match number? t with
        | some (e, after) =>
            goOn after
            return e
        | none => fail
      else if c.isAlpha || c = '_' then
        let (name, after) := nameRead (t.length + 1) t
        readWord r (if "CORE::".toList.isPrefixOf name then name.drop 6
          else if "main::".toList.isPrefixOf name then name.drop 6
          else if "POSIX::".toList.isPrefixOf name then name.drop 7
          else if "List::Util::".toList.isPrefixOf name then name.drop 12
          else name) after
      else
        match c with
        | '$' => readSigned r none
        | '@' => readSigned r none
        | '%' => readSigned r none
        | '&' =>
            let isReference := after.head? = some '$' || after.head? = some '\x7b'
            let e ← readBare r plenty '&'
            let next ← rest
            let arguments ← if next.head? = some '(' then do
                goOn (next.drop 1)
                some <$> readArguments r
              else pure none
            match e, arguments with
            | .variable _ name, some arguments => return .call name arguments
            | .variable _ _, none => return e
            | .dereference _ inner, some arguments =>
                readSubscripts r plenty none (.apply inner arguments)
            | .dereference _ inner, none =>
                if isReference then return .apply inner [.variable '@' ['_']] else fail
            | _, _ => fail
        | '"' =>
            let (_, inner) ← readDelimited
            readJoined r ⟨false⟩ inner
        | '\x27' =>
            let (_, inner) ← readDelimited
            return .text (plainQuoted inner)
        | '\x60' =>
            let (_, inner) ← readDelimited
            return .command (← readJoined r ⟨false⟩ inner)
        | '/' =>
            let (sign, inner) ← readDelimited
            let p ← readPattern r sign inner
            return .fits none p (← readFlags)
        | '(' =>
            goOn after
            let es ← readArguments r
            let next ← rest
            match next with
            | '[' :: _ => readPicked r plenty (.list es)
            | '-' :: '>' :: _ =>
                match es with
                | [e] => readSubscripts r plenty none e
                | es => return .list es
            | _ => return .list es
        | '[' =>
            goOn after
            let es ← r.commas
            expect "]"
            readSubscripts r plenty none (.newList es)
        | '\x7b' =>
            goOn after
            let es ← r.commas
            expect "\x7d"
            readSubscripts r plenty none (.newTable es)
        | '<' =>
            match after with
            | '<' :: _ => readBelowQuoted r
            | after =>
                let inner := after.takeWhile (· != '>')
                let behind := after.drop (inner.length + 1)
                if after.length = inner.length then fail
                goOn behind
                match inner with
                | '$' :: name => return .readLine (.variable '$' name)
                | [] => return .readLine (.text [])
                | inner =>
                    if inner.all isNameSign then return .readLine (.text inner)
                    else return .function "glob".toList [← readJoined r ⟨false⟩ inner]
        | '-' => r.unary
        | '*' =>
            let (name, behind) := nameRead (after.length + 1) after
            if name.isEmpty then fail
            goOn behind
            return .text name
        | _ => fail

/-- A variable that is raised or lowered. -/
def readStepped (r : Layers) : Reader Expr := do
  if ← passIf "++" then return .step (← readAtom r) true 1
  else if ← passIf "--" then return .step (← readAtom r) true (-1)
  else
    let e ← readAtom r
    if ← passIf "++" then return .step e false 1
    else if ← passIf "--" then return .step e false (-1)
    else return e

/-- A power. -/
def readPower (r : Layers) : Reader Expr := do
  let base ← readStepped r
  if ← passIf "**" then return .compute .power base (← r.unary) else return base

/-- What is asked about a file. -/
def readFileTest (r : Layers) (c : Char) : Reader Expr := do
  match ← rest with
  | [] => return .fileTest c defaultVariable
  | _ =>
      match ← peek with
      | some s =>
          if ["(", "\\", "-"].contains s then return .fileTest c (← r.unary)
          else return .fileTest c defaultVariable
      | none => return .fileTest c (← r.unary)

/-- What has a sign in front. -/
def readUnary (r : Layers) : Reader Expr := do
  let t ← rest
  match t with
  | '!' :: c :: _ =>
      if c = '~' then fail
      else
        goOn (t.drop 1)
        return .not (← r.unary)
  | '~' :: _ =>
      goOn (t.drop 1)
      return .complement (← r.unary)
  | '\\' :: _ =>
      goOn (t.drop 1)
      return .reference (← r.unary)
  | '+' :: c :: _ =>
      if c = '+' then readPower r
      else
        goOn (t.drop 1)
        r.unary
  | '-' :: c :: after =>
      if c = '-' then readPower r
      else if c.isAlpha && !(after.head?.any isNameSign) &&
          "edfrwxszlpSbcukgtTBAMCo".toList.contains c &&
          (skipBlanks (after.length + 1) after).take 2 ≠ ['=', '>'] then
        goOn after
        readFileTest r c
      else if c.isAlpha && (arrowKey? t).isNone then
        let (name, after) := nameRead (after.length + 2) (c :: after)
        if isFunction name || after.head? = some '(' then
          goOn (t.drop 1)
          return .negate (← readPower r)
        else
          goOn after
          return .text ('-' :: name)
      else
        goOn (t.drop 1)
        return .negate (← readPower r)
  | _ => readPower r

/-- More patterns. -/
def readMoreBound (r : Layers) : Nat → Expr → Reader Expr
  | 0, _ => fail
  | fuel + 1, left => do
      let bind (right : Expr) : Expr := match right with
        | .fits _ p flags => .fits (some left) p flags
        | .replace _ p by' flags => .replace (some left) p by' flags
        | .exchange _ a b flags => .exchange (some left) a b flags
        | e => .fits (some left) e []
      if ← passIf "=~" then readMoreBound r fuel (bind (← readUnary r))
      else if ← passIf "!~" then readMoreBound r fuel (.not (bind (← readUnary r)))
      else return left

/-- Something is bound to a pattern. -/
def readBound (r : Layers) : Reader Expr := do
  readMoreBound r plenty (← readUnary r)

/-- What the operators of some levels are used in; the firmest come last. -/
def readLevels (r : Layers) : List (List (String × Operator)) → Reader Expr
  | [] => readBound r
  | operators :: firmer => do
      let first ← readLevels r firmer
      chained (fun left => do
        match ← peek with
        | none => return none
        | some s =>
            match operators.find? (·.1 == s) with
            | none => return none
            | some (_, op) =>
                expect s
                return some (.compute op left (← readLevels r firmer))) plenty first

/-- More of what is needed. -/
def readMoreAnd (r : Layers) : Nat → Expr → Reader Expr
  | 0, _ => fail
  | fuel + 1, left => do
      if ← passIf "&&" then readMoreAnd r fuel (.linked .whenTrue left (← readLevels r levels))
      else return left

/-- All of several are needed. -/
def readAnd (r : Layers) : Reader Expr := do
  readMoreAnd r plenty (← readLevels r levels)

/-- More of what is enough. -/
def readMoreOr (r : Layers) : Nat → Expr → Reader Expr
  | 0, _ => fail
  | fuel + 1, left => do
      if ← passIf "||" then readMoreOr r fuel (.linked .whenFalse left (← readAnd r))
      else if ← passIf "//" then readMoreOr r fuel (.linked .whenUndefined left (← readAnd r))
      else return left

/-- One of several is enough. -/
def readOr (r : Layers) : Reader Expr := do
  readMoreOr r plenty (← readAnd r)

/-- A range. -/
def readRange (r : Layers) : Reader Expr := do
  let start ← readOr r
  if (← passIf "..") || (← passIf "...") then
    let mark := (← get).rest.length
    return .range mark start (← readOr r)
  else return start

/-- One of two. -/
def readChoice (r : Layers) : Reader Expr := do
  let c ← readRange r
  if ← passIf "?" then
    let yes ← r.assignment
    expect ":"
    return .choose c yes (← r.assignment)
  else return c

/-- What is assigned. -/
def readAssignment (r : Layers) : Reader Expr := do
  match arrowKey? (← rest) with
  | some (name, after) =>
      goOn after
      return .text name
  | none =>
      let target ← readChoice r
      match ← peek with
      | none => return target
      | some s =>
          match assignment? s, assignLink? s with
          | some op, _ =>
              expect s
              let value ← r.assignment
              return match target, op with
                | .own true [('$', name)] false, none =>
                    if name.contains '#' then .assignWhen .whenUndefined target value
                    else .assign target none value
                | target, op => .assign target op value
          | none, some link =>
              expect s
              return .assignWhen link target (← r.assignment)
          | none, none => return target

/-- Expressions between commas. -/
def readCommas (r : Layers) : Nat → Reader (List Expr)
  | 0 => fail
  | fuel + 1 => do
      if ← ends then return []
      else
        let e ← readAssignment r
        if (← passIf ",") || (← passIf "=>") then
          let _ ← skipCommas fuel
          return e :: (← readCommas r fuel)
        else return [e]
where
  /-- No expression comes next. -/
  ends : Reader Bool := do
    match ← rest with
    | [] => return true
    | _ =>
        match ← peek with
        | some s => return [")", "]", "\x7d", ";", ":", "and", "or", "if", "unless",
            "while", "until",
            "for", "foreach", "xor"].contains s
        | none => return false
  /-- Goes behind more commas. -/
  skipCommas : Nat → Reader Unit
    | 0 => pure ()
    | fuel + 1 => do if (← passIf ",") || (← passIf "=>") then skipCommas fuel

/-- Something is not. -/
def readLooseNot (r : Layers) : Nat → Reader Expr
  | 0 => fail
  | fuel + 1 => do
      if ← passIf "not" then return .not (← readLooseNot r fuel)
      else
        match ← readCommas r plenty with
        | [] => fail
        | [e] =>
            return e
        | es => return .list es

/-- More of what is needed. -/
def readMoreLooseAnd (r : Layers) : Nat → Expr → Reader Expr
  | 0, _ => fail
  | fuel + 1, left => do
      if ← passIf "and" then
          readMoreLooseAnd r fuel (.linked .whenTrue left (← readLooseNot r plenty))
      else return left

/-- All of several are needed. -/
def readLooseAnd (r : Layers) : Reader Expr := do
  readMoreLooseAnd r plenty (← readLooseNot r plenty)

/-- More of what binds most loosely. -/
def readMoreLoose (r : Layers) : Nat → Expr → Reader Expr
  | 0, _ => fail
  | fuel + 1, left => do
      if ← passIf "or" then readMoreLoose r fuel (.linked .whenFalse left (← readLooseAnd r))
      else if ← passIf "xor" then
        let right ← readLooseAnd r
        readMoreLoose r fuel (.compute .unequal (.not left) (.not right))
      else return left

/-- What binds most loosely. -/
def readLoose (r : Layers) : Reader Expr := do
  readMoreLoose r plenty (← readLooseAnd r)

/-- An expression with what it depends on behind it. -/
def readSimple (r : Layers) (line : Nat) : Reader Statement := do
  let e ← readLoose r
  let simple : Statement := .expression line e
  let (name, after) ← word
  let condition : Reader Expr := do
    goOn after
    readLoose r
  let s ← match String.ofList name with
    | "if" => do pure (Statement.choose [(← condition, [simple])] [])
    | "unless" => do pure (Statement.choose [(.not (← condition), [simple])] [])
    | "while" => do
        let c ← condition
        pure (match e with
          | .block _ => Statement.atLeastOnce e c false
          | _ => Statement.whileTrue [] c false [simple] [])
    | "until" => do
        let c ← condition
        pure (match e with
          | .block _ => Statement.atLeastOnce e c true
          | _ => Statement.whileTrue [] c true [simple] [])
    | "for" => do pure (Statement.forEach [] none (← condition) [simple])
    | "foreach" => do pure (Statement.forEach [] none (← condition) [simple])
    | _ => pure simple
  match ← rest with
  | ';' :: behind =>
      goOn behind
      return s
  | '\x7d' :: _ => return s
  | [] => return s
  | _ => fail

/-- A loop over steps or items. -/
def readFor (r : Layers) (label : Text) (after : Text) : Reader Statement := do
  goOn after
  let isOwn := (← passWord "my") || (← passWord "our")
  let t ← rest
  match t with
  | '$' :: behind =>
      let (name, behind) := nameRead (behind.length + 1) behind
      goOn behind
      expect "("
      let items ← readArguments r
      return .forEach label (some (isOwn, name)) (.list items) (← readBlock r)
  | _ =>
      expect "("
      let start ← if (← rest).head? = some ';' then pure (.list []) else
        if (← rest).head? = some ')' then pure (.list []) else readLoose r
      if ← passIf ";" then
        let c ← if (← rest).head? = some ';' then pure none else some <$> readLoose r
        expect ";"
        let step ← if (← rest).head? = some ')' then pure (.list []) else readLoose r
        expect ")"
        return .steps label start c step (← readBlock r)
      else
        expect ")"
        return .forEach label none start (← readBlock r)

/-- A loop, or a block, that may have a label. -/
def readLabelled (r : Layers) (label : Text) : Reader Statement := do
  let t ← rest
  if t.head? = some '\x7b' then return .block label (← readBlock r)
  else
    let (name, after) ← word
    let repeated (isNegated : Bool) : Reader Statement := do
      goOn after
      expect "("
      let c ← if (← rest).head? = some ')' then pure (.integer 1) else readLoose r
      expect ")"
      let body ← readBlock r
      if ← passWord "continue" then
        return .whileTrue label c isNegated body (← readBlock r)
      else return .whileTrue label c isNegated body []
    match String.ofList name with
    | "while" => repeated false
    | "until" => repeated true
    | "for" => readFor r label after
    | "foreach" => readFor r label after
    | _ => fail

/-- Branches of a choice. -/
def readBranches (r : Layers) : Nat → Text → Bool → Reader Statement
  | 0, _, _ => fail
  | fuel + 1, after, isNegated => do
      goOn after
      expect "("
      let c ← readLoose r
      expect ")"
      let body ← readBlock r
      let c := if isNegated then .not c else c
      let (name, behind) ← word
      match String.ofList name with
      | "elsif" =>
          match ← readBranches r fuel behind false with
          | .choose branches others => return .choose ((c, body) :: branches) others
          | _ => fail
      | "else" =>
          goOn behind
          return .choose [(c, body)] (← readBlock r)
      | _ => return .choose [(c, body)] []

/-- Constants with their values. -/
def readConstants (r : Layers) : Reader Statement := do
  let es ← r.commas
  let define (name value : Expr) : Reader Statement := do
    match name with
    | .text name =>
        modify fun c => { c with constants := name :: c.constants }
        return .define name [.expression 0 value]
    | _ => fail
  match es with
  | [.newTable es] => return .block [] (← readPairs define es)
  | [name] => define name (.list [])
  | [name, value] => define name value
  | name :: values => define name (.list values)
  | [] => return .nothing
where
  /-- One constant after another. -/
  readPairs (define : Expr → Expr → Reader Statement) : List Expr → Reader (List Statement)
    | name :: value :: rest => do
        let s ← define name value
        return s :: (← readPairs define rest)
    | _ => return []

/-- A module that is loaded; that of constants defines them. -/
def readLoading (r : Layers) (after : Text) (line : Nat) : Reader Statement := do
  goOn after
  let (name, behind) ← word
  if name = "constant".toList then
    goOn behind
    let s ← readConstants r
    let _ ← passIf ";"
    return s
  else
    goOn ((behind.dropWhile (· != ';')).drop 1)
    return .load name line

/-- A statement. -/
def readStatement (r : Layers) : Reader Statement := do
  let t ← rest
  let line := (← get).whole - t.length
  if t.head? = some ';' then
    goOn (t.drop 1)
    return .nothing
  else if t.head? = some '\x7b' then
    if beginsKeys t then readSimple r line else return .block [] (← readBlock r)
  else
    let (name, after) ← word
    let next := skipBlanks (after.length + 1) after
    let isLabel := !name.isEmpty && (name.all fun c => c.isUpper || c.isDigit || c == '_') &&
      next.head? = some ':' && (next.drop 1).head? ≠ some ':'
    if isLabel then
      goOn (next.drop 1)
      readLabelled r name
    else
      match opener? name with
      | some (.choose isNegated) => readBranches r plenty after isNegated
      | some .define =>
          let (name, behind) := nameRead (next.length + 1) next
          if name.isEmpty then readSimple r line
          else
            goOn behind
            return .define name (← readFunctionBody r)
      | some .atStart =>
          if next.head? = some '\x7b' then
            goOn next
            return .atStart (← readBlock r)
          else readSimple r line
      | some .atEnd =>
          if next.head? = some '\x7b' then
            goOn next
            return .atEnd (← readBlock r)
          else readSimple r line
      | some .load => readLoading r after line
      | some .package =>
          goOn ((after.dropWhile fun c => c ≠ ';' && c ≠ '\x7b'))
          return .nothing
      | some .finish =>
          goOn []
          return .nothing
      | some .loop => readLabelled r []
      | none => readSimple r line

/-- Statements up to a brace that closes, or the end. -/
def readStatements (r : Layers) : Nat → Reader (List Statement)
  | 0 => fail
  | fuel + 1 => do
      match ← rest with
      | [] => return []
      | '\x7d' :: _ => return []
      | _ =>
          let s ← readStatement r
          let others ← readStatements r fuel
          return match s with
            | .nothing => others
            | s => s :: others

/-- What is read by functions that come later, so many of them inside of each other. -/
def Layers.ofDepth : Nat → Layers
  | 0 => ⟨fail, fail, fail, fail, fail, fail⟩
  | n + 1 =>
      let r := ofDepth n
      ⟨readLoose r, readAssignment r, readCommas r plenty, readUnary r,
        readLevels r (levels.drop (unaryLevel + 1)), readStatements r plenty⟩

/-- The statements of a snippet; without them there is the number of the line that is at fault, and
what is wrong there. -/
def programOf (t : Text) : Except (Nat × Text) (List Statement) :=
  let whole : Reader (List Statement) := do
    let body ← (Layers.ofDepth (t.length + 2)).statements
    if (← rest).isEmpty then return body else fail
  match whole.run ⟨t.length, t, []⟩ with
  | .ok (body, _) => .ok body
  | .error flaw => .error (Reader.lineOf t flaw.left, flaw.message)

end KeyMenu.Sh.Snippet
