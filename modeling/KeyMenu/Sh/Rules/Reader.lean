import KeyMenu.Sh.Decimal
import KeyMenu.Sh.Regular.Reader
import KeyMenu.Sh.Rules.Syntax

/-!
# Reading programs of rules

A text is read token by token (`Token.next`); where an expression is to begin, a slash begins a
regular expression. What binds more firmly is read by a function of its own, from `readChoice` down
to `readAtom`. `Program.ofText` gives a program, or says where there is none.
-/

namespace KeyMenu.Sh.Rules

/-! ### Tokens -/

/-- The parts of a program text. A name may have a bracket right behind it. -/
inductive Token
  | number (x : Float)
  | text (t : Text)
  | word (t : Text) (hasBracket : Bool)
  | sign (t : String)
  | lineEnd
  | finish
  | broken (t : Text)

/-- What cannot be read: a message, and the text from there on. -/
structure Flaw where
  message : Text
  rest : Text

/-- Reads from a text. -/
abbrev Reader := StateT Text (Except Flaw)

namespace Token

/-- The signs, longer ones first. -/
def signs : List String :=
  ["&&", "||", "++", "--", "+=", "-=", "*=", "/=", "%=", "^=", "==", "<=", ">=", "!=", "!~", ">>",
    "\x7b", "\x7d", "(", ")", "[", "]", ";", ",", "+", "-", "*", "/", "%", "^", "!", ">", "<", "|",
    "?", ":", "~", "$", "="]

/-- A text without blanks and remarks at its beginning. -/
def skipBlanks : Nat → Text → Text
  | 0, t => t
  | fuel + 1, t =>
      match t with
      | ' ' :: rest => skipBlanks fuel rest
      | '\t' :: rest => skipBlanks fuel rest
      | '\r' :: rest => skipBlanks fuel rest
      | '\\' :: '\n' :: rest => skipBlanks fuel rest
      | '#' :: rest => rest.dropWhile (· != '\n')
      | t => t

/-- The text in quotes, with what its backslashes introduce, and what follows it. -/
def quoted : Nat → Text → Option (Text × Text)
  | 0, _ => none
  | fuel + 1, t =>
      let go (signs rest : Text) : Option (Text × Text) :=
        (quoted fuel rest).map fun (t, rest) => (signs ++ t, rest)
      match t with
      | [] => none
      | '"' :: rest => some ([], rest)
      | '\n' :: _ => none
      | '\\' :: '\n' :: rest => go [] rest
      | '\\' :: c :: rest =>
          match c with
          | '"' => go ['"'] rest
          | '\\' => go ['\\'] rest
          | '/' => go ['\\', '/'] rest
          | 'a' => go ['\x07'] rest
          | 'b' => go ['\x08'] rest
          | 'f' => go ['\x0c'] rest
          | 'n' => go ['\n'] rest
          | 'r' => go ['\r'] rest
          | 't' => go ['\t'] rest
          | 'v' => go ['\x0b'] rest
          | c =>
              match digitsOf 8 3 (c :: rest) with
              | some (n, rest) => go [Char.ofNat (n % 256)] rest
              | none => go ['\\', c] rest
      | c :: rest => go [c] rest

/-- The token at the beginning of a text, and what follows it. -/
def next (t : Text) : Token × Text :=
  let t := skipBlanks (t.length + 1) t
  match t with
  | [] => (.finish, [])
  | '\n' :: rest => (.lineEnd, rest)
  | '"' :: rest =>
      match quoted (rest.length + 1) rest with
      | some (t, rest) => (.text t, rest)
      | none => (.broken ("runaway string constant ".toList ++ t.take 10), rest)
  | c :: rest =>
      if c.isAlpha || c = '_' then
        let isPart (c : Char) : Bool := c.isAlphanum || c == '_'
        let after := rest.dropWhile isPart
        (.word (c :: rest.takeWhile isPart) (after.head? = some '('), after)
      else if c.isDigit || (c = '.' && rest.head?.any Char.isDigit) then
        match Dyadic.read? 53 false (c :: rest) with
        | some (x, rest) => (.number x.toFloat, rest)
        | none => (.broken ['.'], rest)
      else
        match signs.find? fun s => s.toList.isPrefixOf t with
        | some s => (.sign s, t.drop s.length)
        | none => (.broken [c], rest)

end Token

namespace Reader

/-- The token that comes next. -/
def look : Reader Token := do return (Token.next (← get)).1

/-- Goes behind the next token. -/
def pass : Reader Unit := modify fun t => (Token.next t).2

/-- There is no way to read on. -/
def fail {α : Type} : Reader α := do
  let t := Token.skipBlanks ((← get).length + 1) (← get)
  match Token.next t with
  | (.broken message, _) => throw ⟨message, t⟩
  | (.finish, _) => throw ⟨"unexpected end of file".toList, t⟩
  | (.lineEnd, _) => throw ⟨"syntax error at or near end of line".toList, t⟩
  | (_, rest) =>
      throw ⟨"syntax error at or near ".toList ++ t.take (t.length - rest.length), t⟩

/-- The next token is a sign. -/
def isAt (s : String) : Reader Bool := do
  match ← look with
  | .sign t => return t == s
  | _ => return false

/-- Goes behind a sign if it comes next. -/
def passIf (s : String) : Reader Bool := do
  if ← isAt s then
    pass
    return true
  else return false

/-- Goes behind a sign that has to come next. -/
def expect (s : String) : Reader Unit := do
  if ← isAt s then pass else fail

/-- The next token is a word. -/
def isAtWord (w : String) : Reader Bool := do
  match ← look with
  | .word t _ => return t == w.toList
  | _ => return false

/-- Goes behind the ends of lines. -/
def passLines : Nat → Reader Unit
  | 0 => pure ()
  | fuel + 1 => do
      match ← look with
      | .lineEnd =>
          pass
          passLines fuel
      | _ => pure ()

/-- Goes behind the ends of lines and semicolons. -/
def passEnds : Nat → Reader Unit
  | 0 => pure ()
  | fuel + 1 => do
      match ← look with
      | .lineEnd =>
          pass
          passEnds fuel
      | .sign ";" =>
          pass
          passEnds fuel
      | _ => pure ()

end Reader

/-! ### Regular expressions -/

/-- How regular expressions are written. -/
def manner : Manner :=
  { Manner.ofStyle .extended with escapes := true, closesAlone := true, isLenient := true }

/-- The text of a regular expression where backslashes before letters count for nothing but for
signs that are hard to write; there is none where something to be repeated, or an alternative, is
missing. -/
def settled? : Nat → Bool → Bool → Text → Option Text
  | 0, _, _, _ => none
  | fuel + 1, isInside, lacks, t =>
      let go (isInside lacks : Bool) (signs rest : Text) : Option Text :=
        (settled? fuel isInside lacks rest).map (signs ++ ·)
      match t with
      | [] => if lacks && !isInside then none else some []
      | '\\' :: c :: rest =>
          if c.isAlpha && !"ntrfva".toList.contains c then
            if c = 'b' then go isInside false ['\x08'] rest else go isInside false [c] rest
          else if "<>\x60'/\"&".toList.contains c then go isInside false [c] rest
          else go isInside false ['\\', c] rest
      | ['\\'] => some ['\\', '\\']
      | c :: rest =>
          if isInside then
            match c, rest with
            | '[', ':' :: _ =>
                match Text.splitFirst ":]".toList (rest.drop 1) with
                | some (name, rest) => go true false ("[:".toList ++ name ++ ":]".toList) rest
                | none => go true false [c] rest
            | ']', _ => go false false [c] rest
            | _, _ => go true false [c] rest
          else
            match c with
            | '[' =>
                match rest with
                | '^' :: ']' :: rest => go true false "[^]".toList rest
                | ']' :: rest => go true false "[]".toList rest
                | '^' :: rest => go true false "[^".toList rest
                | rest => go true false [c] rest
            | '(' => go false true [c] rest
            | '|' => if lacks then none else go false true [c] rest
            | ')' => if lacks then none else go false false [c] rest
            | '+' => if lacks then none else go false false [c] rest
            | '?' => if lacks then none else go false false [c] rest
            | c => go false false [c] rest

/-- The regular expression of a text. -/
def regular? (t : Text) : Option Regular := do
  if t.isEmpty then return .empty
  Regular.ofText? manner (← settled? (t.length + 1) false true t)

/-- The text up to the slash that ends it, and what follows. -/
def upToSlash : Nat → Bool → Text → Option (Text × Text)
  | 0, _, _ => none
  | fuel + 1, isInside, t =>
      let go (isInside : Bool) (signs rest : Text) : Option (Text × Text) :=
        (upToSlash fuel isInside rest).map fun (t, rest) => (signs ++ t, rest)
      match t with
      | [] => none
      | '\n' :: _ => none
      | '\\' :: '/' :: rest => go isInside ['/'] rest
      | '\\' :: c :: rest => go isInside ['\\', c] rest
      | '[' :: '^' :: ']' :: rest => if isInside then go true ['['] (t.drop 1)
          else go true "[^]".toList rest
      | '[' :: ']' :: rest => if isInside then go true ['['] (t.drop 1)
          else go true "[]".toList rest
      | '[' :: rest => go true ['['] rest
      | ']' :: rest => go false [']'] rest
      | '/' :: rest => if isInside then go true ['/'] rest else some ([], rest)
      | c :: rest => go isInside [c] rest

/-- Reads the regular expression behind a slash. -/
def readRegular (start : Text) : Reader Expr := do
  let t ← get
  match upToSlash (t.length + 1) false t with
  | none => throw ⟨"runaway regular expression /".toList ++ t.take 10, start⟩
  | some (t, rest) =>
      match regular? t with
      | none => throw ⟨"regular expression compile failed\n".toList ++ t, start⟩
      | some r =>
          set rest
          return .regular r

/-! ### Expressions -/

/-- The names of the functions. -/
def functionNames : List (String × Function) :=
  [("length", .length), ("substr", .part), ("index", .index), ("split", .split),
    ("sub", .replace false), ("gsub", .replace true), ("match", .place), ("sprintf", .format),
    ("tolower", .small), ("toupper", .capital), ("sin", .sine), ("cos", .cosine),
    ("atan2", .arctangent), ("exp", .exponential), ("log", .logarithm), ("sqrt", .root),
    ("int", .whole), ("rand", .chance), ("srand", .seed), ("system", .system), ("close", .close),
    ("fflush", .flush), ("systime", .time), ("strftime", .date), ("mktime", .moment)]

/-- The function of a name. -/
def function? (name : Text) : Option Function :=
  (functionNames.find? fun (n, _) => n.toList == name).map Prod.snd

/-- The words that are no names. -/
def keywords : List String :=
  ["BEGIN", "END", "if", "else", "while", "for", "do", "break", "continue", "return",
    "exit", "next",
    "nextfile", "delete", "in", "getline", "print", "printf", "function", "func"]

/-- A word is a name of a variable. -/
def isName (t : Text) : Bool :=
  (function? t).isNone && !keywords.any (·.toList == t)

/-- What may not stand in an expression: a sign for more, which sends output somewhere, and the word
that looks for a key. -/
structure Bounds where
  endsAtMore : Bool
  endsAtIn : Bool

/-- An expression without bounds. -/
def Bounds.none : Bounds := ⟨false, false⟩

/-- The operator of an assignment. -/
def assignment? : Token → Option (Option Operator)
  | .sign "=" => some Option.none
  | .sign "+=" => some (some .add)
  | .sign "-=" => some (some .subtract)
  | .sign "*=" => some (some .multiply)
  | .sign "/=" => some (some .divide)
  | .sign "%=" => some (some .remainder)
  | .sign "^=" => some (some .power)
  | _ => Option.none

/-- The relation of a sign. -/
def relation? (b : Bounds) : Token → Option Relation
  | .sign "<" => some .less
  | .sign "<=" => some .atMost
  | .sign "==" => some .equal
  | .sign "!=" => some .unequal
  | .sign ">=" => some .atLeast
  | .sign ">" => if b.endsAtMore then Option.none else some .more
  | _ => Option.none

/-- A value can be given to an expression. -/
def isPlace : Expr → Bool
  | .name _ => true
  | .element _ _ => true
  | .field _ => true
  | _ => false

/-- An expression may begin with a token behind another expression. -/
def beginsOperand : Token → Bool
  | .number _ => true
  | .text _ => true
  | .word t _ => t == "getline".toList || (function? t).isSome || isName t
  | .sign "$" => true
  | .sign "!" => true
  | .sign "(" => true
  | .sign "++" => true
  | .sign "--" => true
  | _ => false

open Reader

mutual

/-- An expression. -/
def readExpr : Nat → Bounds → Reader Expr
  | 0, _ => fail
  | fuel + 1, b => do
      let e ← readOr fuel b
      if ← passIf "?" then
        passLines fuel
        let yes ← readExpr fuel b
        passLines fuel
        expect ":"
        passLines fuel
        return .choose e yes (← readExpr fuel b)
      else return e

/-- One of several is enough. -/
def readOr : Nat → Bounds → Reader Expr
  | 0, _ => fail
  | fuel + 1, b => do readMoreOr fuel b (← readAnd fuel b)

/-- More of what is enough. -/
def readMoreOr : Nat → Bounds → Expr → Reader Expr
  | 0, _, _ => fail
  | fuel + 1, b, left => do
      if ← passIf "||" then
        passLines fuel
        readMoreOr fuel b (.or left (← readAnd fuel b))
      else return left

/-- All of several are needed. -/
def readAnd : Nat → Bounds → Reader Expr
  | 0, _ => fail
  | fuel + 1, b => do readMoreAnd fuel b (← readWithin fuel b)

/-- More of what is needed. -/
def readMoreAnd : Nat → Bounds → Expr → Reader Expr
  | 0, _, _ => fail
  | fuel + 1, b, left => do
      if ← passIf "&&" then
        passLines fuel
        readMoreAnd fuel b (.and left (← readWithin fuel b))
      else return left

/-- A key is looked for. -/
def readWithin : Nat → Bounds → Reader Expr
  | 0, _ => fail
  | fuel + 1, b => do readMoreWithin fuel b (← readFits fuel b)

/-- What has been read is looked for as a key. -/
def readMoreWithin : Nat → Bounds → Expr → Reader Expr
  | 0, _, _ => fail
  | fuel + 1, b, left => do
      if !b.endsAtIn && (← isAtWord "in") then
        pass
        match ← look with
        | .word array _ =>
            pass
            let keys := match left with
              | .group keys => keys
              | key => [key]
            readMoreWithin fuel b (.within keys array)
        | _ => fail
      else return left

/-- A text fits a regular expression. -/
def readFits : Nat → Bounds → Reader Expr
  | 0, _ => fail
  | fuel + 1, b => do readMoreFits fuel b (← readComparison fuel b)

/-- What has been read fits a regular expression. -/
def readMoreFits : Nat → Bounds → Expr → Reader Expr
  | 0, _, _ => fail
  | fuel + 1, b, left => do
      if ← passIf "~" then readMoreFits fuel b (.fits false left (← readComparison fuel b))
      else if ← passIf "!~" then readMoreFits fuel b (.fits true left (← readComparison fuel b))
      else return left

/-- Values are compared. -/
def readComparison : Nat → Bounds → Reader Expr
  | 0, _ => fail
  | fuel + 1, b => do readMoreComparison fuel b (← readJoined fuel b)

/-- What has been read is compared. -/
def readMoreComparison : Nat → Bounds → Expr → Reader Expr
  | 0, _, _ => fail
  | fuel + 1, b, left => do
      match relation? b (← look) with
      | some relation =>
          pass
          readMoreComparison fuel b (.compare relation left (← readJoined fuel b))
      | none => return left

/-- Texts one after the other; or a place, and what is put there. -/
def readJoined : Nat → Bounds → Reader Expr
  | 0, _ => fail
  | fuel + 1, b => do
      let first ← readSum fuel b
      match isPlace first, assignment? (← look) with
      | true, some op =>
          pass
          passLines fuel
          return .assign first op (← readExpr fuel b)
      | _, _ => readMoreJoined fuel b first

/-- More texts. -/
def readMoreJoined : Nat → Bounds → Expr → Reader Expr
  | 0, _, _ => fail
  | fuel + 1, b, left => do
      if beginsOperand (← look) && !(← isAtWord "in") then
        readMoreJoined fuel b (.join left (← readSum fuel b))
      else return left

/-- A sum. -/
def readSum : Nat → Bounds → Reader Expr
  | 0, _ => fail
  | fuel + 1, b => do readMoreSum fuel b (← readProduct fuel b)

/-- More of a sum. -/
def readMoreSum : Nat → Bounds → Expr → Reader Expr
  | 0, _, _ => fail
  | fuel + 1, b, left => do
      if ← passIf "+" then readMoreSum fuel b (.compute .add left (← readProduct fuel b))
      else if ← passIf "-" then readMoreSum fuel b (.compute .subtract left (← readProduct fuel b))
      else return left

/-- A product. -/
def readProduct : Nat → Bounds → Reader Expr
  | 0, _ => fail
  | fuel + 1, b => do readMoreProduct fuel b (← readSigned fuel b)

/-- More of a product. -/
def readMoreProduct : Nat → Bounds → Expr → Reader Expr
  | 0, _, _ => fail
  | fuel + 1, b, left => do
      if ← passIf "*" then readMoreProduct fuel b (.compute .multiply left (← readSigned fuel b))
      else if ← passIf "/" then readMoreProduct fuel b (.compute .divide left (← readSigned fuel b))
      else if ← passIf "%" then
        readMoreProduct fuel b (.compute .remainder left (← readSigned fuel b))
      else return left

/-- What has a sign in front. -/
def readSigned : Nat → Bounds → Reader Expr
  | 0, _ => fail
  | fuel + 1, b => do
      if ← passIf "!" then return .not (← readSigned fuel b)
      else if ← passIf "-" then return .negate (← readSigned fuel b)
      else if ← passIf "+" then return .plus (← readSigned fuel b)
      else readPiped fuel b (← readPower fuel b)

/-- What a command writes is read. -/
def readPiped : Nat → Bounds → Expr → Reader Expr
  | 0, _, _ => fail
  | fuel + 1, b, e => do
      if ← isAt "|" then
        match (Token.next (Token.next (← get)).2).1 with
        | .word t _ =>
            if t == "getline".toList then
              pass
              pass
              readPiped fuel b (.read .command (some e) (← readTarget fuel b))
            else return e
        | _ => return e
      else return e

/-- The place into which a record is read, if one is named. -/
def readTarget : Nat → Bounds → Reader (Option Expr)
  | 0, _ => fail
  | fuel + 1, b => do
      match ← look with
      | .sign "$" => return some (← readAtom fuel b)
      | .word t false => if isName t then return some (← readAtom fuel b) else return none
      | _ => return none

/-- A power. -/
def readPower : Nat → Bounds → Reader Expr
  | 0, _ => fail
  | fuel + 1, b => do
      let base ← readStepped fuel b
      if ← passIf "^" then
        let exponent ← match ← look with
          | .sign "-" => readSigned fuel b
          | .sign "+" => readSigned fuel b
          | .sign "!" => readSigned fuel b
          | _ => readPower fuel b
        return .compute .power base exponent
      else return base

/-- A place whose number is raised or lowered. -/
def readStepped : Nat → Bounds → Reader Expr
  | 0, _ => fail
  | fuel + 1, b => do
      let before (op : Operator) : Reader Expr := do
        pass
        let e ← readStepped fuel b
        if isPlace e then return .step e true op else fail
      match ← look with
      | .sign "++" => before .add
      | .sign "--" => before .subtract
      | _ =>
          let e ← readAtom fuel b
          if !isPlace e then return e
          else if ← passIf "++" then return .step e false .add
          else if ← passIf "--" then return .step e false .subtract
          else return e

/-- Expressions between commas, up to a bracket. -/
def readList : Nat → String → Reader (List Expr)
  | 0, _ => fail
  | fuel + 1, close => do
      passLines fuel
      let e ← readExpr fuel .none
      passLines fuel
      if ← passIf "," then return e :: (← readList fuel close)
      else
        expect close
        return [e]

/-- What has no parts that bind less firmly. -/
def readAtom : Nat → Bounds → Reader Expr
  | 0, _ => fail
  | fuel + 1, b => do
      let start ← get
      match ← look with
      | .number x =>
          pass
          return .number x
      | .text t =>
          pass
          return .text t
      | .sign "$" =>
          pass
          match ← look with
          | .sign "-" =>
              pass
              return .field (.negate (← readAtom fuel b))
          | .sign "++" => return .field (← readStepped fuel b)
          | .sign "--" => return .field (← readStepped fuel b)
          | _ => return .field (← readAtom fuel b)
      | .sign "(" =>
          pass
          match ← readList fuel ")" with
          | [e] => return .group [e]
          | es => return .group es
      | .sign "/" =>
          pass
          readRegular start
      | .sign "/=" =>
          set ('=' :: (Token.next start).2)
          readRegular start
      | .sign "-" => readSigned fuel b
      | .sign "+" => readSigned fuel b
      | .sign "!" => readSigned fuel b
      | .word t hasBracket =>
          if t == "getline".toList then
            pass
            let target ← readTarget fuel b
            if ← passIf "<" then return .read .file (some (← readStepped fuel b)) target
            else return .read .input none target
          else
            match function? t with
            | some .length =>
                pass
                if ← passIf "(" then
                  if ← passIf ")" then return .apply .length []
                  else return .apply .length (← readList fuel ")")
                else return .apply .length []
            | some f =>
                pass
                expect "("
                if ← passIf ")" then return .apply f []
                else return .apply f (← readList fuel ")")
            | none =>
                if !isName t then fail
                else if hasBracket then
                  pass
                  pass
                  passLines fuel
                  if ← passIf ")" then return .call t []
                  else return .call t (← readList fuel ")")
                else
                  pass
                  if ← passIf "[" then return .element t (← readList fuel "]")
                  else return .name t
      | _ => fail

end

/-! ### Actions -/

/-- Where an action stands: in a function, in a loop, and in a rule for records. -/
structure Place where
  isInFunction : Bool
  isInLoop : Bool
  isForRecords : Bool

/-- Reads where output goes to. -/
def readSink (fuel : Nat) : Reader (Sink × Option Expr) := do
  let b : Bounds := ⟨true, false⟩
  if ← passIf ">" then return (.file, some (← readExpr fuel b))
  else if ← passIf ">>" then return (.append, some (← readExpr fuel b))
  else if ← passIf "|" then return (.command, some (← readExpr fuel b))
  else return (.output, none)

/-- Reads the values that are shown. -/
def readShown : Nat → Reader (List Expr)
  | 0 => fail
  | fuel + 1 => do
      let e ← readExpr fuel ⟨true, false⟩
      if ← passIf "," then
        passLines fuel
        return e :: (← readShown fuel)
      else return [e]

/-- The end of a simple action: a semicolon, the end of the line, or a brace that comes next. -/
def readEnd (fuel : Nat) : Reader Unit := do
  match ← look with
  | .sign ";" =>
      pass
      passLines fuel
  | .lineEnd =>
      pass
      passLines fuel
  | .sign "\x7d" => pure ()
  | .finish => pure ()
  | _ => fail

/-- The names of a loop over keys, if one comes next. -/
def keysLoop? (t : Text) : Option (Text × Text × Text) :=
  match Token.next t with
  | (.word name false, t) =>
      match Token.next t with
      | (.word w _, t) =>
          if w == "in".toList then
            match Token.next t with
            | (.word array _, t) =>
                match Token.next t with
                | (.sign ")", t) => some (name, array, t)
                | _ => none
            | _ => none
          else none
      | _ => none
  | _ => none

mutual

/-- An action that needs no end of its own. -/
def readSimple : Nat → Place → Reader Action
  | 0, _ => fail
  | fuel + 1, p => do
      let shown (f : List Expr → Sink → Option Expr → Action) : Reader Action := do
        pass
        let isBare : Bool := match ← look with
          | .sign ";" => true
          | .sign "\x7d" => true
          | .sign ">" => true
          | .sign ">>" => true
          | .sign "|" => true
          | .lineEnd => true
          | .finish => true
          | _ => false
        let values ← if isBare then pure [] else readShown fuel
        let values := match values with
          | [.group inner] => inner
          | values => values
        let (sink, place) ← readSink fuel
        return f values sink place
      let optional : Reader (Option Expr) := do
        match ← look with
        | .sign ";" => return none
        | .sign "\x7d" => return none
        | .lineEnd => return none
        | .finish => return none
        | _ => return some (← readExpr fuel .none)
      match ← look with
      | .word w _ =>
          match String.ofList w with
          | "print" => shown .print
          | "printf" => shown .format
          | "next" =>
              if p.isForRecords || p.isInFunction then
                pass
                return .next
              else throw ⟨"improper use of next".toList, ← get⟩
          | "nextfile" =>
              if p.isForRecords || p.isInFunction then
                pass
                return .nextFile
              else throw ⟨"improper use of nextfile".toList, ← get⟩
          | "exit" =>
              pass
              return .exit (← optional)
          | "return" =>
              if !p.isInFunction then throw ⟨"return outside function body".toList, ← get⟩
              pass
              return .giveBack (← optional)
          | "break" =>
              if !p.isInLoop then throw ⟨"break statement outside of loop".toList, ← get⟩
              pass
              return .leave
          | "continue" =>
              if !p.isInLoop then throw ⟨"continue statement outside of loop".toList, ← get⟩
              pass
              return .goOn
          | "delete" =>
              pass
              let hasBracket ← passIf "("
              match ← look with
              | .word array _ =>
                  pass
                  let keys ← if ← passIf "[" then some <$> readList fuel "]" else pure none
                  if hasBracket then expect ")"
                  return .delete array keys
              | _ => fail
          | _ => return .expression (← readExpr fuel .none)
      | _ => return .expression (← readExpr fuel .none)

/-- An action. -/
def readAction : Nat → Place → Reader Action
  | 0, _ => fail
  | fuel + 1, p => do
      let looped : Place := { p with isInLoop := true }
      let simple : Reader Action := do
        let a ← readSimple fuel p
        readEnd fuel
        return a
      match ← look with
      | .sign "\x7b" =>
          pass
          let a ← readActions fuel p
          expect "\x7d"
          match ← look with
          | .sign ";" => pass
          | _ => pure ()
          passLines fuel
          return a
      | .sign ";" =>
          pass
          passLines fuel
          return .nothing
      | .word w _ =>
          match String.ofList w with
          | "if" =>
              pass
              expect "("
              let c ← readExpr fuel .none
              expect ")"
              passLines fuel
              let yes ← readAction fuel p
              let before ← get
              passEnds fuel
              if ← isAtWord "else" then
                pass
                passLines fuel
                return .choose c yes (← readAction fuel p)
              else
                set before
                return .choose c yes .nothing
          | "while" =>
              pass
              expect "("
              let c ← readExpr fuel .none
              expect ")"
              if ← passIf ";" then
                passLines fuel
                return .whileTrue c .nothing
              passLines fuel
              return .whileTrue c (← readAction fuel looped)
          | "do" =>
              pass
              passLines fuel
              let body ← readAction fuel looped
              passEnds fuel
              if !(← isAtWord "while") then fail
              pass
              expect "("
              let c ← readExpr fuel .none
              expect ")"
              readEnd fuel
              return .untilFalse body c
          | "for" =>
              pass
              expect "("
              match keysLoop? (← get) with
              | some (name, array, rest) =>
                  set rest
                  passLines fuel
                  return .forKeys name array (← readAction fuel looped)
              | none =>
                  let start ← if ← isAt ";" then pure .nothing else readSimple fuel p
                  expect ";"
                  passLines fuel
                  let c ← if ← isAt ";" then pure none else some <$> readExpr fuel .none
                  expect ";"
                  passLines fuel
                  let step ← if ← isAt ")" then pure .nothing else readSimple fuel p
                  expect ")"
                  if ← passIf ";" then
                    passLines fuel
                    return .steps start c step .nothing
                  passLines fuel
                  return .steps start c step (← readAction fuel looped)
          | _ => simple
      | _ => simple

/-- Actions up to a brace that closes. -/
def readActions : Nat → Place → Reader Action
  | 0, _ => fail
  | fuel + 1, p => do
      passEnds fuel
      match ← look with
      | .sign "\x7d" => return .nothing
      | .finish => throw ⟨"missing \x7d near end of file".toList, []⟩
      | _ =>
          let first ← readAction fuel p
          return .after first (← readActions fuel p)

end

/-! ### Rules -/

/-- The names of the arguments of a function. -/
def readParameters : Nat → Reader (List Text)
  | 0 => fail
  | fuel + 1 => do
      passLines fuel
      match ← look with
      | .sign ")" =>
          pass
          return []
      | .word name _ =>
          pass
          passLines fuel
          if ← passIf "," then return name :: (← readParameters fuel)
          else
            expect ")"
            return [name]
      | _ => fail

/-- An action between braces. -/
def readBody (fuel : Nat) (p : Place) : Reader Action := do
  expect "\x7b"
  let a ← readActions fuel p
  expect "\x7d"
  return a

/-- Rules and functions up to the end. -/
def readProgram : Nat → Reader Program
  | 0 => fail
  | fuel + 1 => do
      passEnds fuel
      let forRecords : Place := ⟨false, false, true⟩
      let others (r : Rule) : Reader Program := do
        let p ← readProgram fuel
        return { p with rules := r :: p.rules }
      match ← look with
      | .finish => return ⟨[], []⟩
      | .sign "\x7b" => others ⟨.always, ← readBody fuel forRecords⟩
      | .word w _ =>
          match String.ofList w with
          | "BEGIN" =>
              pass
              others ⟨.first, ← readBody fuel ⟨false, false, false⟩⟩
          | "END" =>
              pass
              others ⟨.last, ← readBody fuel ⟨false, false, false⟩⟩
          | "function" => readFunction fuel
          | "func" => readFunction fuel
          | _ => others (← readRule fuel)
      | _ => others (← readRule fuel)
where
  /-- A rule that begins with an expression. -/
  readRule (fuel : Nat) : Reader Rule := do
    let start ← readExpr fuel .none
    let condition ← if ← passIf "," then do
        passLines fuel
        pure (Condition.between start (← readExpr fuel .none))
      else pure (Condition.holds start)
    if ← isAt "\x7b" then return ⟨condition, ← readBody fuel ⟨false, false, true⟩⟩
    else
      readEnd fuel
      return ⟨condition, .print [] .output none⟩
  /-- A function, and what follows it. -/
  readFunction (fuel : Nat) : Reader Program := do
    pass
    match ← look with
    | .word name _ =>
        pass
        expect "("
        let parameters ← readParameters fuel
        if parameters.contains name then
          throw ⟨"function parameter cannot be the function".toList, ← get⟩
        passLines fuel
        let body ← readBody fuel ⟨true, false, false⟩
        let p ← readProgram fuel
        return { p with functions := (name, ⟨parameters, body⟩) :: p.functions }
    | _ => fail

namespace Program

/-- The program of a text; without one there is the number of the line that is at fault, and what is
wrong there. -/
def ofText (t : Text) : Except (Nat × Text) Program :=
  match (readProgram (40 * (t.length + 10))).run t with
  | .ok (p, _) => .ok p
  | .error flaw =>
      .error ((t.take (t.length - flaw.rest.length)).count '\n' + 1, flaw.message)

end Program

end KeyMenu.Sh.Rules
