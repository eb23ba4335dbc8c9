import KeyMenu.Sh.Decimal
import KeyMenu.Sh.Octet
import KeyMenu.Sh.Snippet.Syntax

/-!
# Words and signs of snippets

A snippet is read sign by sign: what a slash, a brace or a name means depends on whether an
expression may begin. This module holds what can be read without knowing expressions: blanks, names,
operators, numbers, and texts between quotes.
-/

namespace KeyMenu.Sh.Snippet

/-- How much text there is to be read, what is left of it, and the names of constants. -/
structure Cursor where
  whole : Nat
  rest : Text
  constants : List Text

/-- What cannot be read: a message, and how much is left from there on. -/
structure Flaw where
  message : Text
  left : Nat

/-- Reads from a text. -/
abbrev Reader := StateT Cursor (Except Flaw)

/-- A sign of a name. -/
def isNameSign (c : Char) : Bool := c.isAlphanum || c == '_'

/-- A name at the beginning of a text, perhaps with the names of packages in front, and what follows
it. -/
def nameRead : Nat → Text → Text × Text
  | 0, t => ([], t)
  | fuel + 1, t =>
      let name := t.takeWhile isNameSign
      let rest := t.drop name.length
      match rest with
      | ':' :: ':' :: c :: after =>
          if isNameSign c then
            let (more, rest) := nameRead fuel (c :: after)
            (name ++ "::".toList ++ more, rest)
          else (name, rest)
      | rest => (name, rest)

/-- A text without blanks, remarks and documentation at its beginning. -/
def skipBlanks : Nat → Text → Text
  | 0, t => t
  | fuel + 1, t =>
      match t with
      | ' ' :: rest => skipBlanks fuel rest
      | '\t' :: rest => skipBlanks fuel rest
      | '\r' :: rest => skipBlanks fuel rest
      | '\n' :: '=' :: c :: rest =>
          if c.isAlpha then
            match Text.splitFirst "\n=cut".toList rest with
            | some (_, after) => skipBlanks fuel (after.dropWhile (· != '\n'))
            | none => []
          else skipBlanks fuel ('=' :: c :: rest)
      | '\n' :: rest => skipBlanks fuel rest
      | '#' :: rest => skipBlanks fuel (rest.dropWhile (· != '\n'))
      | t => t

/-- The signs of operators, longer ones first. -/
def operatorSigns : List String :=
  ["<=>", "**=", "||=", "&&=", "//=", "...", "<<=", ">>=", "->", "++", "--", "**", "=~", "!~", "==",
    "!=", "<=", ">=", "&&", "||", "//", "..", "::", "+=", "-=", "*=", "/=", ".=", "%=", "x=", "&=",
    "|=", "^=", "<<", ">>", "=>", ",", "+", "-", "*", "/", "%", ".", "<", ">", "&", "|", "^", "?",
    ":", "=", "!", "~", "\\", "(", ")", "[", "]", "\x7b", "\x7d", ";"]

/-- The words that are operators. -/
def operatorWords : List String :=
  ["x", "lt", "gt", "le", "ge", "eq", "ne", "cmp", "and", "or", "not", "xor", "if",
    "unless", "while",
    "until", "for", "foreach"]

/-- The operator at the beginning of a text, and what follows it. -/
def operator? (t : Text) : Option (String × Text) :=
  let word := t.takeWhile isNameSign
  match operatorWords.find? fun w => w.toList == word with
  | some w =>
      if w = "x" && (t.drop 1).head? = some '=' && (t.drop 2).head? ≠ some '=' &&
          (t.drop 2).head? ≠ some '~' then some ("x=", t.drop 2)
      else if (skipBlanks (t.length + 1) (t.drop word.length)).take 2 = ['=', '>'] then none
      else some (w, t.drop word.length)
  | none =>
      if word.head? = some 'x' && (word.drop 1).all Char.isDigit && !word.isEmpty then
        some ("x", t.drop 1)
      else (operatorSigns.find? fun s => s.toList.isPrefixOf t).map fun s => (s, t.drop s.length)

namespace Reader

/-- What is left, without blanks at its beginning. -/
def rest : Reader Text := do
  let c ← get
  let t := skipBlanks (c.rest.length + 1) c.rest
  set { c with rest := t }
  return t

/-- Goes on to what is left. -/
def goOn (t : Text) : Reader Unit := modify fun c => { c with rest := t }

/-- There is no way to read on. -/
def failWith {α : Type} (message : Text) : Reader α := do throw ⟨message, (← get).rest.length⟩

/-- There is no way to read on. -/
def fail {α : Type} : Reader α := do
  let t ← rest
  failWith (if t.isEmpty then "syntax error".toList
    else "syntax error near \"".toList ++ t.take 10 ++ ['"'])

/-- The operator that comes next. -/
def peek : Reader (Option String) := do return (operator? (← rest)).map Prod.fst

/-- Goes behind an operator if it comes next. -/
def passIf (s : String) : Reader Bool := do
  match operator? (← rest) with
  | some (found, after) =>
      if found = s then
        goOn after
        return true
      else return false
  | none => return false

/-- Goes behind an operator that has to come next. -/
def expect (s : String) : Reader Unit := do if !(← passIf s) then fail

/-- The word that comes next, with what follows it. -/
def word : Reader (Text × Text) := do
  let t ← rest
  if t.head?.any fun c => c.isAlpha || c == '_' then return nameRead (t.length + 1) t
  else return ([], t)

/-- Goes behind a word if it comes next. -/
def passWord (w : String) : Reader Bool := do
  let (found, after) ← word
  if found == w.toList then
    goOn after
    return true
  else return false

/-- The number of the line that is being read. -/
def lineOf (whole : Text) (left : Nat) : Nat := (whole.take (whole.length - left)).count '\n' + 1

end Reader

open Reader

/-! ### Quotes -/

/-- The sign that closes what a sign has opened. -/
def closing : Char → Char
  | '(' => ')'
  | '[' => ']'
  | '<' => '>'
  | '\x7b' => '\x7d'
  | c => c

/-- The text up to the sign that closes it, and what follows; brackets inside of it come in pairs,
and a backslash is kept with what follows it, but for one before the sign itself. -/
def delimited (opens closes : Char) : Nat → Nat → Text → Option (Text × Text)
  | 0, _, _ => none
  | _ + 1, _, [] => none
  | fuel + 1, depth, c :: rest =>
      let go (depth : Nat) (signs rest : Text) : Option (Text × Text) :=
        (delimited opens closes fuel depth rest).map fun (t, rest) => (signs ++ t, rest)
      if c = '\\' then
        match rest with
        | d :: rest => if opens = closes && d = closes then
              go depth (if "|.*+?^$".toList.contains d then ['\\', d] else [d]) rest
            else go depth ['\\', d] rest
        | [] => none
      else if c = closes then
        match depth with
        | 0 => some ([], rest)
        | n + 1 => go n [c] rest
      else if c = opens then go (depth + 1) [c] rest
      else go depth [c] rest

/-- Reads a text between signs of which the first comes next. -/
def readDelimited : Reader (Char × Text) := do
  match (← get).rest with
  | c :: after =>
      match delimited c (closing c) (after.length + 1) 0 after with
      | some (t, after) =>
          goOn after
          return (c, t)
      | none => failWith ("Can\x27t find string terminator ".toList ++ ['"', closing c, '"'] ++
          " anywhere before EOF".toList)
  | [] => failWith "syntax error".toList

/-- A text between single quotes. -/
def plainQuoted : Text → Text
  | '\\' :: '\\' :: rest => '\\' :: plainQuoted rest
  | '\\' :: '\x27' :: rest => '\x27' :: plainQuoted rest
  | c :: rest => c :: plainQuoted rest
  | [] => []

/-- How a text with expressions in it is read: as an expression for patterns, where backslashes are
kept. -/
structure Quote where
  isPattern : Bool

/-- A bracket behind a name begins an index, and no set of letters. -/
def beginsIndex (q : Quote) (t : Text) : Bool :=
  let inner := t.takeWhile (· != ']')
  let isNumber := !inner.isEmpty && (inner.dropWhile (· == '-')).all Char.isDigit &&
    inner.any Char.isDigit
  let isName := inner.head? = some '$' &&
    ((inner.drop 1).head?.any fun c => c.isAlpha || c == '_' || c == '#')
  (t.length ≠ inner.length) && (isNumber || isName || (!q.isPattern && inner.head? = some '#'))

/-- The signs that are names of variables. -/
def specialNames : Text := "&\x60\x27+!@/\\,;.0_\"|?".toList

/-- What is done with the letters of a part of a text. -/
def casing? : Char → Option Text
  | 'U' => some "uc".toList
  | 'L' => some "lc".toList
  | 'Q' => some "quotemeta".toList
  | 'u' => some "ucfirst".toList
  | 'l' => some "lcfirst".toList
  | _ => none

/-- The sign that a backslash and what follows it stand for, and what follows. -/
def escape (t : Text) : Text × Text :=
  match t with
  | [] => (['\\'], [])
  | c :: rest =>
      match c with
      | 'n' => (['\n'], rest)
      | 't' => (['\t'], rest)
      | 'r' => (['\r'], rest)
      | 'a' => (['\x07'], rest)
      | 'e' => (['\x1b'], rest)
      | 'f' => (['\x0c'], rest)
      | 'b' => (['\x08'], rest)
      | 'x' =>
          match rest with
          | '\x7b' :: rest =>
              let digits := rest.takeWhile (· != '\x7d')
              let n := ((digitsOf 16 8 digits).map Prod.fst).getD 0
              (if n < 256 then [Char.ofNat n] else octets [Char.ofNat n],
                rest.drop (digits.length + 1))
          | rest =>
              match digitsOf 16 2 rest with
              | some (n, rest) => ([Char.ofNat n], rest)
              | none => (['\x00'], rest)
      | '0' =>
          match digitsOf 8 3 t with
          | some (n, rest) => ([Char.ofNat (n % 256)], rest)
          | none => (['\x00'], rest)
      | c =>
          if c.isDigit then
            match digitsOf 8 3 t with
            | some (n, rest) => ([Char.ofNat (n % 256)], rest)
            | none => ([c], rest)
          else ([c], rest)

/-! ### Names of functions -/

/-- The functions that take one argument, or none. -/
def unaryNames : List String :=
  ["defined", "ref", "scalar", "lc", "uc", "lcfirst", "ucfirst", "length", "exists",
    "delete", "shift",
    "pop", "chomp", "chop", "ord", "chr", "int", "abs", "hex", "oct", "sqrt", "sin", "cos", "exp",
    "log", "rand", "srand", "quotemeta", "exit", "umask", "sleep", "localtime", "gmtime", "undef",
    "chdir", "rmdir", "readline", "close", "each", "keys", "values", "fc", "caller", "pos", "lock",
    "require", "readlink", "stat", "lstat", "closedir", "readdir", "fileno", "eof",
      "alarm", "floor",
    "ceil", "basename", "dirname", "looks_like_number", "blessed"]

/-- The functions that take no argument. -/
def nullaryNames : List String := ["time", "wantarray", "wait", "times", "getppid", "fork",
    "cwd", "getcwd"]

/-- The functions that take lists. -/
def listNames : List String :=
  ["push", "unshift", "splice", "join", "split", "reverse", "index", "rindex", "substr", "sprintf",
    "die", "warn", "system", "exec", "kill", "open", "binmode", "unlink", "mkdir",
      "rename", "chmod",
    "utime", "opendir", "atan2", "pack", "unpack", "select", "waitpid", "bless", "return", "printf",
    "link", "symlink", "truncate", "seek", "tell", "read", "sysread", "syswrite", "getc", "chown",
    "glob", "local", "lcm", "sum", "sum0", "max", "min", "maxstr", "minstr", "product", "uniq",
    "shuffle", "fmod", "pow", "strftime", "mktime", "pairs"]

/-- A function of this name is there without being defined. -/
def isFunction (name : Text) : Bool :=
  (unaryNames ++ nullaryNames ++ listNames).any (·.toList == name)

/-- The functions of modules, which count only if nothing else has been defined under their
names. -/
def moduleNames : List String :=
  ["floor", "ceil", "fmod", "pow", "strftime", "mktime", "sum", "sum0", "max", "min", "maxstr",
    "minstr", "product", "uniq", "shuffle", "looks_like_number", "blessed", "basename", "dirname",
    "cwd", "getcwd", "lcm", "pairs"]

/-- The kinds of sieves by name. -/
def sieve? (name : Text) : Option Sieve :=
  match String.ofList name with
  | "map" => some .map
  | "grep" => some .grep
  | "sort" => some .sort
  | "first" => some .first
  | "any" => some .any
  | "all" => some .all
  | "reduce" => some .reduce
  | _ => none

/-- The operators of a level, from the loosest to the firmest. -/
def levels : List (List (String × Operator)) :=
  [[("|", .bitOr), ("^", .bitXor)],
    [("&", .bitAnd)],
    [("==", .equal), ("!=", .unequal), ("<=>", .order), ("eq", .textEqual), ("ne", .textUnequal),
      ("cmp", .textOrder)],
    [("<", .less), (">", .more), ("<=", .atMost), (">=", .atLeast), ("lt", .textLess),
      ("gt", .textMore), ("le", .textAtMost), ("ge", .textAtLeast)],
    [("<<", .shiftLeft), (">>", .shiftRight)],
    [("+", .add), ("-", .subtract), (".", .join)],
    [("*", .multiply), ("/", .divide), ("%", .remainder), ("x", .times)]]

/-- The level of the operators that bind more firmly than functions of one argument. -/
def unaryLevel : Nat := 4

/-- The operator of an assignment. -/
def assignment? : String → Option (Option Operator)
  | "=" => some none
  | "+=" => some (some .add)
  | "-=" => some (some .subtract)
  | "*=" => some (some .multiply)
  | "/=" => some (some .divide)
  | ".=" => some (some .join)
  | "%=" => some (some .remainder)
  | "**=" => some (some .power)
  | "x=" => some (some .times)
  | "&=" => some (some .bitAnd)
  | "|=" => some (some .bitOr)
  | "^=" => some (some .bitXor)
  | "<<=" => some (some .shiftLeft)
  | ">>=" => some (some .shiftRight)
  | _ => none

/-- The link of an assignment that is made only sometimes. -/
def assignLink? : String → Option Link
  | "&&=" => some .whenTrue
  | "||=" => some .whenFalse
  | "//=" => some .whenUndefined
  | _ => none

/-- A number at the beginning of a text, and what follows it. -/
def number? (t : Text) : Option (Expr × Text) :=
  let inBaseOf (base : Nat) (t : Text) : Option (Expr × Text) :=
    let isPart (c : Char) : Bool := digitValue c < base || c == '_'
    let digits := (t.takeWhile isPart).filter (· != '_')
    (numberIn? base digits).map fun n => (.integer n, t.dropWhile isPart)
  match t with
  | '0' :: 'x' :: rest => inBaseOf 16 rest
  | '0' :: 'b' :: rest => inBaseOf 2 rest
  | '0' :: c :: rest => if c.isDigit then inBaseOf 8 (c :: rest) else decimal ('0' :: c :: rest)
  | t => decimal t
where
  /-- A decimal number. -/
  decimal (t : Text) : Option (Expr × Text) :=
    let isPart (c : Char) : Bool := c.isDigit || c == '_'
    let whole := t.takeWhile isPart
    let rest := t.drop whole.length
    let (fraction, rest) := match rest with
      | '.' :: '.' :: _ => ([], rest)
      | '.' :: after => ('.' :: after.takeWhile isPart, after.dropWhile isPart)
      | rest => ([], rest)
    let (exponent, rest) := match rest with
      | c :: after =>
          if c = 'e' || c = 'E' then
            let sign := after.takeWhile fun c => c == '-' || c == '+'
            let digits := (after.drop sign.length).takeWhile Char.isDigit
            if digits.isEmpty || 1 < sign.length then ([], rest)
            else ('e' :: sign ++ digits, after.drop (sign.length + digits.length))
          else ([], rest)
      | [] => ([], rest)
    let digits := (whole ++ fraction ++ exponent).filter (· != '_')
    if whole.isEmpty && fraction.length < 2 then none
    else if fraction.isEmpty && exponent.isEmpty then
      (numberIn? 10 digits).map fun n =>
        if n ≤ 18446744073709551615 then (.integer n, rest)
        else (.number (Float.ofInt n), rest)
    else (Dyadic.read? 53 false digits).map fun (x, _) => (.number x.toFloat, rest)

/-- The variable that a pattern or an exchange works on where none is said. -/
def defaultVariable : Expr := .variable '$' ['_']

/-- The expression between a brace and another is a plain name: the key of an entry. -/
def plainKey? (t : Text) : Option (Text × Text) :=
  let t := skipBlanks (t.length + 1) t
  let (sign, t') := match t with
    | '-' :: rest => (['-'], rest)
    | t => ([], t)
  let name := t'.takeWhile isNameSign
  let rest := t'.drop name.length
  let after := skipBlanks (rest.length + 1) rest
  if name.isEmpty || name.head?.any Char.isDigit then none
  else
    match after with
    | '\x7d' :: after => some (sign ++ name, after)
    | _ => none

/-- A word in front of an arrow is a text. -/
def arrowKey? (t : Text) : Option (Text × Text) :=
  let (sign, t') := match t with
    | '-' :: rest => (['-'], rest)
    | t => ([], t)
  let name := t'.takeWhile isNameSign
  let rest := t'.drop name.length
  if name.isEmpty || name.head?.any Char.isDigit then none
  else
    match skipBlanks (rest.length + 1) rest with
    | '=' :: '>' :: _ => some (sign ++ name, rest)
    | _ => none

/-- The lines of a text that is written below, up to the one that ends it, and what follows. -/
def linesUpTo (mark : Text) (isIndented : Bool) : Nat → Text → Option (List Text × Text)
  | 0, _ => none
  | fuel + 1, t =>
      if t.isEmpty then none
      else
        let line := t.takeWhile (· != '\n')
        let rest := t.drop (line.length + 1)
        let bare := if isIndented then line.dropWhile fun c => c == ' ' || c == '\t' else line
        if bare = mark then some ([], rest)
        else (linesUpTo mark isIndented fuel rest).map fun (lines, rest) => (line :: lines, rest)

/-- Takes a text that is written below out of what is left. -/
def readBelow (mark : Text) (isIndented : Bool) : Reader Text := do
  let t := (← get).rest
  let here := t.takeWhile (· != '\n')
  match linesUpTo mark isIndented (t.length + 1) (t.drop (here.length + 1)) with
  | none => failWith ("Can\x27t find string terminator \"".toList ++ mark ++
      "\" anywhere before EOF".toList)
  | some (lines, rest) =>
      goOn (here ++ '\n' :: rest)
      let indent (line : Text) : Nat :=
        (line.takeWhile fun c => c == ' ' || c == '\t').length
      let least := if isIndented then
          ((lines.filter (!·.isEmpty)).map indent).min?.getD 0 else 0
      return lines.flatMap fun line => line.drop least ++ ['\n']

/-- The flags behind a pattern. -/
def readFlags : Reader Text := do
  let t := (← get).rest
  let flags := t.takeWhile Char.isAlpha
  goOn (t.drop flags.length)
  return flags

/-- What stands between two braces that begin a statement is a table: a word or a text between
quotes comes first, with an arrow behind it. -/
def beginsKeys (t : Text) : Bool :=
  let t := skipBlanks (t.length + 1) (t.drop 1)
  let behind := match t with
    | '"' :: rest => (rest.dropWhile (· != '"')).drop 1
    | '\x27' :: rest => (rest.dropWhile (· != '\x27')).drop 1
    | t => if t.head?.any isNameSign then t.dropWhile isNameSign else []
  (skipBlanks (behind.length + 1) behind).take 2 == ['=', '>']

/-- An exchange of signs. -/
def readExchange (t : Text) : Reader Expr := do
  goOn (skipBlanks (t.length + 1) t)
  let (sign, signs) ← readDelimited
  let others ← if closing sign ≠ sign then do
      let next ← rest
      goOn next
      pure (← readDelimited).2
    else do
      goOn (sign :: (← get).rest)
      pure (← readDelimited).2
  return .exchange none signs others (← readFlags)

/-- The words that begin expressions of their own. -/
inductive Keyword
  | plainText
  | joinedText
  | words
  | command
  | pattern
  | fits
  | replace
  | exchange
  | own (isShared : Bool)
  | kept
  | saved
  | show (kind : Showing)
  | function
  | block
  | trial
  | giveBack
  | leave (how : Leaving)
  | nothing
  | here
  | program
  | line
  | stream

/-- The meanings of such words. -/
def keywords : List (String × Keyword) :=
  [("q", .plainText), ("qq", .joinedText), ("qw", .words), ("qx", .command), ("qr", .pattern),
    ("m", .fits), ("s", .replace), ("tr", .exchange), ("y", .exchange), ("my", .own false),
    ("our", .own true), ("state", .kept), ("local", .saved), ("print", .show .plain),
    ("say", .show .line), ("printf", .show .format), ("sub", .function), ("do", .block),
    ("eval", .trial), ("return", .giveBack), ("last", .leave .last), ("next", .leave .next),
    ("redo", .leave .redo), ("undef", .nothing), ("__PACKAGE__", .here), ("__FILE__", .program),
    ("__LINE__", .line), ("STDIN", .stream), ("STDOUT", .stream), ("STDERR", .stream)]

/-- The meaning of a word that begins an expression of its own. -/
def keyword? (name : Text) : Option Keyword :=
  (keywords.find? fun (n, _) => n.toList == name).map Prod.snd

/-- The words that begin statements of their own. -/
inductive Opener
  | choose (isNegated : Bool)
  | define
  | atStart
  | atEnd
  | load
  | package
  | finish
  | loop

/-- The meaning of a word that begins a statement of its own. -/
def opener? (name : Text) : Option Opener :=
  (openers.find? fun (n, _) => n.toList == name).map Prod.snd
where
  /-- The meanings of such words. -/
  openers : List (String × Opener) :=
    [("if", .choose false), ("unless", .choose true), ("sub", .define), ("BEGIN", .atStart),
      ("END", .atEnd), ("use", .load), ("no", .load), ("package", .package), ("__END__", .finish),
      ("__DATA__", .finish), ("while", .loop), ("until", .loop), ("for", .loop), ("foreach", .loop)]

end KeyMenu.Sh.Snippet
