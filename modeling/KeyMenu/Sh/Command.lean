import KeyMenu.Sh.Token

/-!
# Command texts

The commands of a text as a tree: simple commands, pipes, conditions, sequences, groups, loops,
choices and functions. A text is read line by line (`Command.readLine?`), because the commands of a
line are carried out before the next line is read.
-/

namespace KeyMenu.Sh

/-- A redirection: the stream, what is done to it, and the target. -/
structure Redirect where
  stream : StreamName
  direction : Direction
  target : Word
  deriving DecidableEq

/-- A simple command: the line in which it begins, its words and redirections. -/
structure Simple where
  line : Nat
  words : List Word
  redirects : List Redirect
  deriving DecidableEq

/-- A condition between double brackets. -/
inductive Judgement
  | words (words : List Word)
  | negated (inner : Judgement)
  | both (left right : Judgement)
  | either (left right : Judgement)
  deriving DecidableEq

/-- How a branch of a case ends: the others are passed over, the next one is carried out too, or the
others are tried. -/
inductive BranchEnd
  | done
  | next
  | others
  deriving DecidableEq

/-- A command. Where the output of one command is the input of another, both are parts of a pipe; a
partner runs beside the shell and has a queue for its input and one for its output. -/
inductive Command
  | nothing
  | simple (s : Simple)
  | pipe (left right : Command)
  | both (left right : Command)
  | either (left right : Command)
  | negated (inner : Command)
  | sequence (first second : Command)
  | background (inner : Command)
  | subshell (inner : Command)
  | choice (condition yes no : Command)
  | loop (isUntil : Bool) (condition body step : Command)
  | each (name : Text) (words : Option (List Word)) (body : Command)
  | select (name : Text) (words : Option (List Word)) (body : Command)
  | partner (name : Text) (inner : Command)
  | cases (subject : Word) (branches : List (List Word × Command × BranchEnd))
  | define (name : Text) (body : Command)
  | redirected (inner : Command) (redirects : List Redirect)
  | calculation (line : Nat) (expression : Text)
  | judgement (line : Nat) (j : Judgement)

namespace Command

/-- There is no command. -/
def isNothing : Command → Bool
  | .nothing => true
  | _ => false

/-- The command that is negated, or the command itself. -/
def withoutNegation : Command → Command
  | .negated inner => inner
  | c => c

/-! ### Looking at tokens -/

/-- The next token is that bare word. -/
def startsWith (word : String) : List Token → Bool
  | .word w _ :: _ => w.bare? == some word.toList
  | _ => false

/-- The next token is a word. -/
def startsWithWord : List Token → Bool
  | .word _ _ :: _ => true
  | _ => false

/-- The line of the next token, if it has one. -/
def lineOf : List Token → Nat
  | .word _ line :: _ => line
  | .calculation _ line :: _ => line
  | .redirect _ _ :: .word _ line :: _ => line
  | _ => 0

/-- The next token is that operator. -/
def startsWithOperator (sign : String) : List Token → Bool
  | .operator t :: _ => t == sign.toList
  | _ => false

/-- The tokens after a bare word that has to stand first. -/
def expectWord (word : String) (ts : List Token) : Option (List Token) :=
  if startsWith word ts then some ts.tail else none

/-- The tokens after an operator that has to stand first. -/
def expectOperator (sign : String) (ts : List Token) : Option (List Token) :=
  if startsWithOperator sign ts then some ts.tail else none

/-- The tokens without the line ends at the beginning. -/
def skipLines : List Token → List Token := List.dropWhile fun
  | .operator t => t == ['\n']
  | _ => false

/-- The tokens after one sign that separates commands, and the line ends after it. -/
def skipSeparator (ts : List Token) : List Token :=
  skipLines (if startsWithOperator ";" ts then ts.tail else ts)

/-- The words that end a list of commands. -/
def closers : List String := ["then", "elif", "else", "fi", "\x7d", "do", "done", "esac"]

/-- The words that have a meaning of their own where a command begins. -/
def reserved (dialect : Dialect) : List String :=
  closers ++ ["if", "\x7b", "!", "while", "until", "for", "case", "in"] ++
    (if dialect = .bash then ["[[", "function", "time", "select", "coproc"] else [])

/-- A command cannot begin here: there is nothing more, or something ends here. -/
def endsList (ts : List Token) : Bool :=
  match ts with
  | [] => true
  | .operator t :: _ => t == [')'] || [';', ';'].isPrefixOf t || t == [';', '&']
  | .word _ _ :: _ => closers.any (startsWith · ts)
  | _ => false

/-- The line or the command ends here. -/
def endsLine (ts : List Token) : Bool :=
  ts.isEmpty || startsWithOperator "\n" ts || startsWithOperator ";" ts

/-! ### Simple commands -/

/-- The words and redirections at the beginning. -/
def readSimple : List Token → Option (Simple × List Token)
  | .word w line :: rest => do
      let (s, rest) ← readSimple rest
      return ({ s with line := line, words := w :: s.words }, rest)
  | .redirect stream direction :: .word w line :: rest => do
      let (s, rest) ← readSimple rest
      return ({ s with line := line, redirects := ⟨stream, direction, w⟩ :: s.redirects }, rest)
  | .redirect _ _ :: _ => none
  | .broken :: _ => none
  | rest => some (⟨0, [], []⟩, rest)

/-- The commands behind which elements may stand. -/
def elementNames : List String :=
  ["alias", "declare", "eval", "export", "let", "local", "readonly", "typeset"]

/-- Elements stand where variables are given values: before the name of a command, or behind the
name of one that declares. -/
def placesElements (s : Simple) : Bool :=
  match s.words.dropWhile Word.givesValue with
  | [] => true
  | name :: rest =>
      elementNames.any (fun n => name.bare? == some n.toList) ||
        !(name :: rest).any Word.holdsElements

/-- The redirections after a command that is not simple. -/
def readRedirects : List Token → Option (List Redirect × List Token)
  | .redirect stream direction :: .word w _ :: rest => do
      let (more, rest) ← readRedirects rest
      return (⟨stream, direction, w⟩ :: more, rest)
  | .redirect _ _ :: _ => none
  | rest => some ([], rest)

/-- The words at the beginning. -/
def readWords : List Token → List Word × List Token
  | .word w _ :: rest =>
      let (words, rest) := readWords rest
      (w :: words, rest)
  | rest => ([], rest)

/-- The patterns of a branch, up to the bracket that closes. -/
def readPatterns : List Token → Option (List Word × List Token)
  | .word w _ :: .operator ['|'] :: rest => do
      let (words, rest) ← readPatterns rest
      return (w :: words, rest)
  | .word w _ :: .operator [')'] :: rest => some ([w], rest)
  | _ => none

/-! ### Conditions between double brackets -/

/-- The words of one condition: what is no operator of its own here. -/
def judged : List Token → List Word × List Token
  | .word w line :: rest =>
      if w.bare? = some "]]".toList then ([], .word w line :: rest)
      else
        let (words, rest) := judged rest
        (w :: words, rest)
  | .redirect _ .input :: rest =>
      let (words, rest) := judged rest
      ([.literal false ['<']] :: words, rest)
  | .redirect _ .output :: rest =>
      let (words, rest) := judged rest
      ([.literal false ['>']] :: words, rest)
  | rest => ([], rest)

mutual

/-- Conditions joined by "or". -/
def readEither : Nat → List Token → Option (Judgement × List Token)
  | 0, _ => none
  | fuel + 1, ts => do
      let (left, rest) ← readBoth fuel ts
      if startsWithOperator "||" rest then
        let (right, rest) ← readEither fuel (skipLines rest.tail)
        return (.either left right, rest)
      else return (left, rest)

/-- Conditions joined by "and". -/
def readBoth : Nat → List Token → Option (Judgement × List Token)
  | 0, _ => none
  | fuel + 1, ts => do
      let (left, rest) ← readJudged fuel ts
      if startsWithOperator "&&" rest then
        let (right, rest) ← readBoth fuel (skipLines rest.tail)
        return (.both left right, rest)
      else return (left, rest)

/-- One condition, perhaps negated or in brackets. -/
def readJudged : Nat → List Token → Option (Judgement × List Token)
  | 0, _ => none
  | fuel + 1, ts =>
      if startsWith "!" ts then do
        let (inner, rest) ← readJudged fuel ts.tail
        return (.negated inner, rest)
      else if startsWithOperator "(" ts then do
        let (inner, rest) ← readEither fuel ts.tail
        let rest ← expectOperator ")" rest
        return (inner, rest)
      else
        match judged ts with
        | ([], _) => none
        | (words, rest) => if words.length ≤ 3 then some (.words words, rest) else none

end

/-! ### Lists of commands -/

/-- The name of a function and what follows its brackets, if one is defined here. -/
def functionName? (dialect : Dialect) : List Token → Option (Text × List Token)
  | .word w _ :: .operator ['('] :: .operator [')'] :: rest => do
      let name ← w.bare?
      if dialect = .bash || isName name then return (name, rest) else none
  | ts =>
      if dialect = .bash && startsWith "function" ts then
        match ts.tail with
        | .word w _ :: .operator ['('] :: .operator [')'] :: rest => w.bare?.map (·, rest)
        | .word w _ :: rest => w.bare?.map (·, rest)
        | _ => none
      else none

/-- The three expressions of a loop that counts. -/
def countParts? (t : Text) : Option (Text × Text × Text) := do
  let (start, rest) ← Text.splitFirst [';'] t
  let (condition, step) ← Text.splitFirst [';'] rest
  return (start, condition, step)

/-- An expression that is true where nothing is said. -/
def orTrue (t : Text) : Text := if t.all (· == ' ') then ['1'] else t

mutual

/-- A sequence of commands, up to where a command cannot begin. -/
def readList (dialect : Dialect) : Nat → List Token → Option (Command × List Token)
  | 0, _ => none
  | fuel + 1, ts =>
      let ts := skipLines ts
      if endsList ts then some (.nothing, ts)
      else do
        let (first, rest) ← readConditions dialect fuel ts
        match rest with
        | .operator [c] :: more =>
            if c = ';' || c = '\n' then
              let (second, rest) ← readList dialect fuel more
              return (.sequence first second, rest)
            else if c = '&' then
              let (second, rest) ← readList dialect fuel more
              return (.sequence (.background first) second, rest)
            else return (first, rest)
        | _ => return (first, rest)

/-- A sequence of commands that is not empty, and the word after it. -/
def readBlock (dialect : Dialect) : Nat → String → List Token → Option (Command × List Token)
  | 0, _, _ => none
  | fuel + 1, word, ts => do
      let (inner, rest) ← readList dialect fuel ts
      let rest ← expectWord word rest
      if inner.isNothing then none else return (inner, rest)

/-- Pipes joined by conditions, from the left. -/
def readConditions (dialect : Dialect) : Nat → List Token → Option (Command × List Token)
  | 0, _ => none
  | fuel + 1, ts => do
      let (first, rest) ← readPipe dialect fuel ts
      moreConditions dialect fuel first rest

/-- The conditions that follow a command. -/
def moreConditions (dialect : Dialect) : Nat → Command → List Token → Option (Command × List Token)
  | 0, _, _ => none
  | fuel + 1, left, ts => do
      if startsWithOperator "&&" ts then
        let (right, rest) ← readPipe dialect fuel (skipLines ts.tail)
        moreConditions dialect fuel (.both left right) rest
      else if startsWithOperator "||" ts then
        let (right, rest) ← readPipe dialect fuel (skipLines ts.tail)
        moreConditions dialect fuel (.either left right) rest
      else return (left, ts)

/-- A pipe, perhaps negated. -/
def readPipe (dialect : Dialect) : Nat → List Token → Option (Command × List Token)
  | 0, _ => none
  | fuel + 1, ts => do
      if startsWith "!" ts && dialect = .bash && endsLine ts.tail then
        return (.negated (.simple ⟨lineOf ts, [], []⟩), ts.tail)
      else if startsWith "!" ts && (dialect = .bash || !startsWith "!" ts.tail) then
        let (inner, rest) ← readPipe dialect fuel ts.tail
        return (.negated inner, rest)
      else if dialect = .bash && startsWith "time" ts then
        let ts := if startsWith "-p" ts.tail then ts.tail.tail else ts.tail
        if endsLine ts then return (.nothing, ts) else readPipe dialect fuel ts
      else readStages dialect fuel ts

/-- Commands each of which reads what the one before it writes. -/
def readStages (dialect : Dialect) : Nat → List Token → Option (Command × List Token)
  | 0, _ => none
  | fuel + 1, ts => do
      let (first, rest) ← readRedirected dialect fuel ts
      if startsWithOperator "|" rest || startsWithOperator "|&" rest then
        let first := if startsWithOperator "|" rest then first
          else .redirected first [⟨.number 2, .copyOut, .ofLiteral ['1']⟩]
        let (second, rest) ← readStages dialect fuel (skipLines rest.tail)
        return (.pipe first second, rest)
      else return (first, rest)

/-- A command with its redirections. -/
def readRedirected (dialect : Dialect) : Nat → List Token → Option (Command × List Token)
  | 0, _ => none
  | fuel + 1, ts =>
      match functionName? dialect ts with
      | some (name, rest) => do
          let (body, rest) ← readRedirected dialect fuel (skipLines rest)
          match body, dialect with
          | .simple _, .bash => none
          | body, _ => return (.define name body, rest)
      | none =>
          match ts with
          | .word _ _ :: _ =>
              if dialect = .bash && startsWith "coproc" ts then readPartner dialect fuel ts.tail
              else if (reserved dialect).any (startsWith · ts) then readCompound dialect fuel ts
              else do
                let (s, rest) ← readSimple ts
                guard (placesElements s)
                return (.simple s, rest)
          | .redirect _ _ :: _ => do
              let (s, rest) ← readSimple ts
              return (.simple s, rest)
          | _ => readCompound dialect fuel ts

/-- What follows the word that begins a partner: a command, or the name of the partner and a command
that is not simple. -/
def readPartner (dialect : Dialect) : Nat → List Token → Option (Command × List Token)
  | 0, _ => none
  | fuel + 1, ts =>
      let begins (ts : List Token) : Bool :=
        ["\x7b", "if", "while", "until", "for", "case", "[[", "select"].any (startsWith · ts) ||
          startsWithOperator "(" ts || (ts.head?.any fun | .calculation _ _ => true | _ => false)
      match ts with
      | .word w line :: rest =>
          match if begins (.word w line :: rest) then none else w.bare? with
          | some name =>
              if isName name && begins rest then do
                let (inner, rest) ← readRedirected dialect fuel rest
                return (.partner name inner, rest)
              else do
                let (inner, rest) ← readRedirected dialect fuel (.word w line :: rest)
                return (.partner "COPROC".toList inner, rest)
          | none => do
              let (inner, rest) ← readRedirected dialect fuel (.word w line :: rest)
              return (.partner "COPROC".toList inner, rest)
      | ts => do
          let (inner, rest) ← readRedirected dialect fuel ts
          return (.partner "COPROC".toList inner, rest)

/-- A group, a choice, a loop or a case, and the redirections after it. -/
def readCompound (dialect : Dialect) : Nat → List Token → Option (Command × List Token)
  | 0, _ => none
  | fuel + 1, ts => do
      let (inner, rest) ← readStructure dialect fuel ts
      let (redirects, rest) ← readRedirects rest
      guard (redirects.isEmpty || !startsWithWord rest)
      return (if redirects.isEmpty then inner else .redirected inner redirects, rest)

/-- A group, a choice, a loop or a case. -/
def readStructure (dialect : Dialect) : Nat → List Token → Option (Command × List Token)
  | 0, _ => none
  | fuel + 1, ts =>
      match ts with
      | .calculation expression line :: rest => some (.calculation line expression, rest)
      | .operator ['('] :: rest => do
          let (inner, rest) ← readList dialect fuel rest
          let rest ← expectOperator ")" rest
          if inner.isNothing then none else return (.subshell inner, rest)
      | _ =>
          if startsWith "\x7b" ts then readBlock dialect fuel "\x7d" ts.tail
          else if startsWith "if" ts then readChoice dialect fuel ts.tail
          else if startsWith "while" ts || startsWith "until" ts then do
            let (condition, rest) ← readBlock dialect fuel "do" ts.tail
            let (body, rest) ← readBlock dialect fuel "done" rest
            return (.loop (startsWith "until" ts) condition body .nothing, rest)
          else if startsWith "for" ts then readEach dialect fuel .each ts.tail
          else if dialect = .bash && startsWith "select" ts then
            readEach dialect fuel .select ts.tail
          else if startsWith "case" ts then
            match ts.tail with
            | .word subject _ :: rest => do
                guard (!subject.holdsElements)
                let rest ← expectWord "in" (skipLines rest)
                let (branches, rest) ← readBranches dialect fuel (skipLines rest)
                return (.cases subject branches, rest)
            | _ => none
          else if startsWith "[[" ts && dialect = .bash then do
            let (j, rest) ← readEither fuel ts.tail
            let rest ← expectWord "]]" rest
            return (.judgement (lineOf ts) j, rest)
          else none

/-- What follows the word that begins a choice. -/
def readChoice (dialect : Dialect) : Nat → List Token → Option (Command × List Token)
  | 0, _ => none
  | fuel + 1, ts => do
      let (condition, rest) ← readBlock dialect fuel "then" ts
      let (yes, rest) ← readList dialect fuel rest
      if yes.isNothing then none
      else if startsWith "elif" rest then
        let (no, rest) ← readChoice dialect fuel rest.tail
        return (.choice condition yes no, rest)
      else if startsWith "else" rest then
        let (no, rest) ← readBlock dialect fuel "fi" rest.tail
        return (.choice condition yes no, rest)
      else
        let rest ← expectWord "fi" rest
        return (.choice condition yes .nothing, rest)

/-- What follows the word that begins a loop over words, or a loop that counts. -/
def readEach (dialect : Dialect) : Nat → (Text → Option (List Word) → Command → Command) →
    List Token → Option (Command × List Token)
  | 0, _, _ => none
  | fuel + 1, build, ts =>
      match ts with
      | .calculation parts line :: rest => do
          let (start, condition, step) ← countParts? parts
          let (body, rest) ← readBody dialect fuel rest
          let expression (t : Text) : Command := .calculation line (orTrue t)
          return (.sequence (.either (expression start) .nothing)
            (.loop false (expression condition) body (expression step)), rest)
      | .word w _ :: rest => do
          let name ← w.bare?
          if !isName name then none
          else
            let next := skipLines rest
            if startsWith "in" next then
              let (words, rest) := readWords next.tail
              guard (!words.any Word.holdsElements)
              if !startsWithOperator ";" rest && !startsWithOperator "\n" rest then none
              else
                let (body, rest) ← readBody dialect fuel rest
                return (build name (some words) body, rest)
            else
              let (body, rest) ← readBody dialect fuel rest
              return (build name none body, rest)
      | _ => none

/-- The body of a loop over words. -/
def readBody (dialect : Dialect) : Nat → List Token → Option (Command × List Token)
  | 0, _ => none
  | fuel + 1, ts =>
      let ts := skipSeparator ts
      if startsWith "\x7b" ts && dialect = .bash then readBlock dialect fuel "\x7d" ts.tail
      else do
        let rest ← expectWord "do" ts
        readBlock dialect fuel "done" rest

/-- The branches of a case, up to the word that ends them. -/
def readBranches (dialect : Dialect) : Nat → List Token →
    Option (List (List Word × Command × BranchEnd) × List Token)
  | 0, _ => none
  | fuel + 1, ts =>
      if startsWith "esac" ts then some ([], ts.tail)
      else do
        let (patterns, rest) ← readPatterns (if startsWithOperator "(" ts then ts.tail else ts)
        let (body, rest) ← readList dialect fuel rest
        let ending : Option BranchEnd :=
          if startsWithOperator ";;" rest then some .done
          else if startsWithOperator ";&" rest then some .next
          else if startsWithOperator ";;&" rest then some .others
          else none
        match ending with
        | some ending =>
            let (others, rest) ← readBranches dialect fuel (skipLines rest.tail)
            return ((patterns, body, ending) :: others, rest)
        | none =>
            let rest ← expectWord "esac" rest
            return ([(patterns, body, .done)], rest)

end

/-- The commands of a line, up to the line end after which nothing is open. -/
def readLineFrom (dialect : Dialect) : Nat → List Token → Option (Command × List Token)
  | 0, _ => none
  | fuel + 1, ts => do
      let (first, rest) ← readConditions dialect fuel ts
      match rest with
      | [] => return (first, [])
      | .operator [c] :: more =>
          let first := if c = '&' then .background first else first
          if c = '\n' then return (first, more)
          else if c ≠ ';' && c ≠ '&' then none
          else if more.isEmpty || startsWithOperator "\n" more then return (first, more.tail)
          else
            let (second, rest) ← readLineFrom dialect fuel more
            return (.sequence first second, rest)
      | _ => none

/-- The commands of the first line, and the tokens after it. Each level of reading takes a few steps
for each token. -/
def readLine? (dialect : Dialect) (ts : List Token) : Option (Command × List Token) :=
  readLineFrom dialect (16 * (ts.length + 1)) ts

/-- The scripts that stand in a word. -/
def scriptsIn (w : Word) : List Text := w.filterMap fun
  | .output _ script => some script
  | .feed _ script => some script
  | _ => none

/-- Words with all words of the scripts in them, to some depth. -/
def allWords (dialect : Dialect) : Nat → List Word → List Word
  | 0, words => words
  | depth + 1, words =>
      words ++ allWords dialect depth ((words.flatMap scriptsIn).flatMap fun script =>
        (tokens dialect script).filterMap fun
          | .word w _ => some w
          | _ => none)

/-- All lines of a text can be read, and those of the scripts in its words, to some depth. -/
def canRead (dialect : Dialect) : Nat → List Token → Bool
  | 0, _ => true
  | depth + 1, ts =>
      let areRead := ts.all fun
        | .word w _ => (scriptsIn w).all fun script =>
            canRead dialect depth (tokens dialect script)
        | _ => true
      areRead && linesRead (ts.length + 1) ts
where
  /-- The lines can be read. -/
  linesRead : Nat → List Token → Bool
    | 0, _ => true
    | lines + 1, ts =>
        match skipLines ts with
        | [] => true
        | ts =>
            match readLine? dialect ts with
            | some (_, rest) => linesRead lines rest
            | none => false

end Command

end KeyMenu.Sh
