import KeyMenu.Sh.Regular.Reader
import KeyMenu.Sh.Tool.Basic

/-!
# Scripts that edit lines

A script is a list of steps (`EditStep`). Each one says for which lines it is meant, by numbers and
by what is found in them, and what it does. `EditScript.ofText` reads one; its message says what is
wrong.
-/

namespace KeyMenu.Sh

/-- A line by its number, the last one, one in which an expression fits, or every so many lines from
one on. An expression may be the one that has been used last. -/
inductive LinePlace
  | number (n : Nat)
  | last
  | fitting (r : Option Regular)
  | every (first step : Nat)

/-- Where a range of lines ends: at a line like those, so many lines later, or at the next
multiple. -/
inductive RangeEnd
  | at (place : LinePlace)
  | after (count : Nat)
  | multiple (n : Nat)

/-- The lines for which a step is meant. -/
structure LineRange where
  first : LinePlace
  stop : Option RangeEnd

/-- How letters are shown from here on, or the next one. -/
inductive LetterCase
  | capitals
  | smalls
  | nextCapital
  | nextSmall
  | asTheyAre

/-- A part of what is put in place of what has been found. -/
inductive ExchangePart
  | plain (t : Text)
  | group (n : Nat)
  | letters (c : LetterCase)

/-- Puts something in place of what is found: from which find on, and whether for all that follow;
whether the line is shown then, handed to a shell, or written into a file. -/
structure Exchange where
  expression : Option Regular
  parts : List ExchangePart
  from' : Nat
  isAll : Bool
  shows : Bool
  runs : Bool
  file : Option Text

/-- What a step does. -/
inductive EditAction
  | opens (close : Nat)
  | closes
  | label (name : Text)
  | goTo (name : Text)
  | goIfChanged (name : Text)
  | goUnlessChanged (name : Text)
  | showNumber
  | append (t : Text)
  | insert (t : Text)
  | change (t : Text)
  | delete
  | deleteFirst
  | execute (command : Text)
  | showName
  | fromHold
  | fromHoldAppended
  | toHold
  | toHoldAppended
  | swap
  | list (width : Option Nat)
  | next
  | nextAppended
  | print
  | printFirst
  | quit (status : Nat) (shows : Bool)
  | readFile (path : Text)
  | readLine (path : Text)
  | writeFile (path : Text)
  | writeFirst (path : Text)
  | exchange (e : Exchange)
  | translate (pairs : List (Char × Char))
  | empty

/-- A step of a script. -/
structure EditStep where
  range : Option LineRange
  isTurned : Bool
  action : EditAction

/-- How scripts are read: the manner of expressions, and whether letters are code points. -/
structure EditRules where
  manner : Manner
  isWide : Bool

namespace EditScript

/-! ### Texts inside scripts -/

/-- Signs that mean something in expressions. -/
def hardInExpressions (style : Style) : Text :=
  "^$.*[]\\/".toList ++ if style = .extended then "+?()\x7b\x7d|".toList else []

/-- The sign of a number in a base that has at most so many digits, and what follows. -/
def numberedSign (base count : Nat) (t : Text) : Option (Char × Text) :=
  (digitsOf base count t).map fun (n, rest) => (Char.ofNat (n % 256), rest)

/-- Signs that a backslash introduces; `hard` are those that would mean something else. -/
def withSigns (hard : Text) : Nat → Text → Text
  | 0, t => t
  | _ + 1, [] => []
  | fuel + 1, '\\' :: c :: rest =>
      let spelled (found : Option (Char × Text)) : Text :=
        match found with
        | some (c, rest) =>
            (if hard.contains c then ['\\', c] else [c]) ++ withSigns hard fuel rest
        | none => '\\' :: c :: withSigns hard fuel rest
      match c with
      | 'a' => '\x07' :: withSigns hard fuel rest
      | 'f' => '\x0c' :: withSigns hard fuel rest
      | 'v' => '\x0b' :: withSigns hard fuel rest
      | 't' => '\t' :: withSigns hard fuel rest
      | 'r' => '\r' :: withSigns hard fuel rest
      | 'c' =>
          match rest with
          | d :: rest => Char.ofNat (d.toUpper.toNat ^^^ 0x40) :: withSigns hard fuel rest
          | [] => "\\c".toList
      | 'd' => spelled (numberedSign 10 3 rest)
      | 'o' => spelled (numberedSign 8 3 rest)
      | 'x' => spelled (numberedSign 16 2 rest)
      | c => '\\' :: c :: withSigns hard fuel rest
  | fuel + 1, c :: rest => c :: withSigns hard fuel rest

/-- The text up to a sign that ends it, and what follows; a backslash in front of the sign makes it
an ordinary one. -/
def upTo (limit : Char) (isExpression : Bool) : Text → Option (Text × Text)
  | [] => none
  | '\\' :: c :: rest => do
      let (t, after) ← upTo limit isExpression rest
      if c = 'n' && isExpression then return ('\n' :: t, after)
      else if c = '\n' then return ((if isExpression then ['\n'] else ['\\', '\n']) ++ t, after)
      else if c = limit && !(!isExpression && c = '&') then return (c :: t, after)
      else return ('\\' :: c :: t, after)
  | c :: rest =>
      if c = limit then some ([], rest)
      else if c = '\n' then none
      else (upTo limit isExpression rest).map fun (t, after) => (c :: t, after)

/-- Leaves out white space. -/
def pastBlanks : Text → Text := List.dropWhile fun c => c == ' ' || c == '\t'

/-- Leaves out white space, ends of lines and semicolons. -/
def pastEnds : Text → Text := List.dropWhile fun c =>
  c == ' ' || c == '\t' || c == '\n' || c == ';' || c == '\r'

/-- Reads an expression; an empty one stands for the one used last. -/
def expression? (rules : EditRules) (folds isLined : Bool) (source : Text) :
    Except Text (Option Regular) :=
  if source.isEmpty then .ok none
  else
    let t := withSigns (hardInExpressions rules.manner.style) (source.length + 1) source
    let m := { rules.manner with folds := folds, isLined := isLined }
    match Regular.ofText? m (widened rules.isWide t) with
    | some r => .ok (some r)
    | none => .error "Invalid regular expression".toList

/-- The part of what is put in place that a letter behind a backslash stands for. -/
def partOf (c : Char) : ExchangePart :=
  if c.isDigit then .group (c.toNat - 48)
  else
    match c with
    | 'L' => .letters .smalls
    | 'U' => .letters .capitals
    | 'E' => .letters .asTheyAre
    | 'l' => .letters .nextSmall
    | 'u' => .letters .nextCapital
    | 'n' => .plain ['\n']
    | c => .plain [c]

/-- What is put in place of what is found. -/
def exchangeParts : Text → List ExchangePart
  | [] => []
  | '\\' :: c :: rest => partOf c :: exchangeParts rest
  | '&' :: rest => .group 0 :: exchangeParts rest
  | c :: rest => .plain [c] :: exchangeParts rest

/-- The letters behind an exchange, and what follows. -/
structure ExchangeFlags where
  number : Option Nat
  isAll : Bool
  shows : Bool
  runs : Bool
  folds : Bool
  isLined : Bool
  file : Option Text
  rest : Text

/-- Reads the letters behind an exchange. -/
def exchangeFlags : Nat → ExchangeFlags → Except Text ExchangeFlags
  | 0, f => .ok f
  | fuel + 1, f =>
      match f.rest with
      | 'i' :: rest => exchangeFlags fuel { f with folds := true, rest := rest }
      | 'I' :: rest => exchangeFlags fuel { f with folds := true, rest := rest }
      | 'm' :: rest => exchangeFlags fuel { f with isLined := true, rest := rest }
      | 'M' :: rest => exchangeFlags fuel { f with isLined := true, rest := rest }
      | 'e' :: rest => exchangeFlags fuel { f with runs := true, rest := rest }
      | 'p' :: rest =>
          if f.shows then .error "multiple \x60p\x27 options to \x60s\x27 command".toList
          else exchangeFlags fuel { f with shows := true, rest := rest }
      | 'g' :: rest =>
          if f.isAll then .error "multiple \x60g\x27 options to \x60s\x27 command".toList
          else exchangeFlags fuel { f with isAll := true, rest := rest }
      | 'w' :: rest =>
          let path := (pastBlanks rest).takeWhile (· != '\n')
          if path.isEmpty then .error "missing filename in r/R/w/W commands".toList
          else .ok { f with file := some path, rest := (pastBlanks rest).drop path.length }
      | c :: rest =>
          if c.isDigit then
            match digitsOf 10 20 (c :: rest) with
            | some (0, _) =>
                .error "number option to \x60s\x27 command may not be zero".toList
            | some (n, rest) =>
                if f.number.isSome then
                  .error "multiple number options to \x60s\x27 command".toList
                else exchangeFlags fuel { f with number := some n, rest := rest }
            | none => .ok f
          else if "\n; \t\r#\x7d".toList.contains c then .ok f
          else .error "unknown option to \x60s\x27".toList
      | [] => .ok f

/-! ### Places -/

/-- The letters behind an expression that tells where a step is meant to act. -/
def placeFlags (folds isLined : Bool) : Text → Bool × Bool × Text
  | 'I' :: rest => placeFlags true isLined rest
  | 'M' :: rest => placeFlags folds true rest
  | rest => (folds, isLined, rest)

/-- Reads a place, if there is one. -/
def place? (rules : EditRules) (t : Text) : Except Text (Option (LinePlace × Text)) :=
  let fitting (limit : Char) (rest : Text) : Except Text (Option (LinePlace × Text)) :=
    match upTo limit true rest with
    | none => .error "unterminated address regex".toList
    | some (source, rest) => do
        let (folds, isLined, rest) := placeFlags false false rest
        let r ← expression? rules folds isLined source
        return some (.fitting r, rest)
  match t with
  | '$' :: rest => .ok (some (.last, rest))
  | '/' :: rest => fitting '/' rest
  | '\\' :: limit :: rest => fitting limit rest
  | t =>
      match digitsOf 10 20 t with
      | none => .ok none
      | some (n, rest) =>
          match pastBlanks rest with
          | '~' :: more =>
              let (step, more) := (digitsOf 10 20 (pastBlanks more)).getD (0, more)
              .ok (some (if step = 0 then .number n else .every n step, more))
          | _ => .ok (some (.number n, rest))

/-- Reads where a range ends. -/
def rangeEnd? (rules : EditRules) (t : Text) : Except Text (Option (RangeEnd × Text)) :=
  match t with
  | '+' :: rest => .ok ((digitsOf 10 20 rest).map fun (n, rest) => (.after n, rest))
  | '~' :: rest => .ok ((digitsOf 10 20 rest).map fun (n, rest) => (.multiple n, rest))
  | t => do return (← place? rules t).map fun (p, rest) => (.at p, rest)

/-- Reads for which lines a step is meant. -/
def range? (rules : EditRules) (t : Text) : Except Text (Option LineRange × Text) := do
  match ← place? rules t with
  | none =>
      if t.head? = some ',' then .error "unexpected \x60,\x27".toList
      else return (none, t)
  | some (first, rest) =>
      let rest := pastBlanks rest
      let (stop, rest) ← match rest with
        | ',' :: more => do
            match ← rangeEnd? rules (pastBlanks more) with
            | some (stop, rest) => pure (some stop, rest)
            | none => .error "unexpected \x60,\x27".toList
        | rest => pure (none, rest)
      let isZero := match first with
        | .number 0 => true
        | _ => false
      let isFitting := match stop with
        | some (.at (.fitting _)) => true
        | _ => false
      if isZero && !isFitting then .error "invalid usage of line address 0".toList
      else return (some ⟨first, stop⟩, rest)

/-! ### Steps -/

/-- The text of a step that has one: lines up to one without a backslash at its end. -/
def lineText : Text → Text × Text
  | [] => ([], [])
  | '\\' :: c :: rest =>
      let (t, after) := lineText rest
      ((if c = '\n' then ['\n'] else ['\\', c]) ++ t, after)
  | c :: rest =>
      if c = '\n' then ([], rest)
      else
        let (t, after) := lineText rest
        (c :: t, after)

/-- A text without the backslashes that only introduce signs. -/
def withoutBackslashes : Text → Text
  | [] => []
  | '\\' :: 'n' :: rest => '\n' :: withoutBackslashes rest
  | '\\' :: c :: rest => c :: withoutBackslashes rest
  | ['\\'] => []
  | c :: rest => c :: withoutBackslashes rest

/-- The text behind the letter of a step that has one; the first line may begin behind a
backslash. -/
def stepText? (rest : Text) : Except Text (Text × Text) :=
  match pastBlanks rest with
  | [] => .error "expected \\ after \x60a\x27, \x60c\x27 or \x60i\x27".toList
  | ['\\'] => .ok ([], [])
  | t =>
      let (isOpen, t) := match t with
        | '\\' :: rest =>
            match pastBlanks rest with
            | '\n' :: more => (true, more)
            | _ => (true, rest)
        | t => (false, t)
      let (first, t) := match isOpen, t with
        | true, c :: more => if c = '\\' || c = '\n' then ([], c :: more) else ([c], more)
        | _, t => ([], t)
      let (lines, rest) := lineText t
      let spelled := withoutBackslashes (withSigns ['\\'] (lines.length + 1) lines)
      .ok (first ++ spelled ++ ['\n'], rest)

/-- The name behind a letter. -/
def nameAfter (rest : Text) : Text × Text :=
  let t := pastBlanks rest
  let name := t.takeWhile fun c => !"\n; \t\r\x7d".toList.contains c
  (name, t.drop name.length)

/-- The path behind a letter: all of the line. -/
def pathAfter? (rest : Text) : Except Text (Text × Text) :=
  let t := pastBlanks rest
  let path := t.takeWhile (· != '\n')
  if path.isEmpty then .error "missing filename in r/R/w/W commands".toList
  else .ok (path, t.drop path.length)

/-- The number behind a letter, if there is one. -/
def numberAfter (rest : Text) : Option Nat × Text :=
  let t := pastBlanks rest
  match digitsOf 10 20 t with
  | some (n, rest) => (some n, rest)
  | none => (none, t)

/-- Signs for signs. -/
def pairs? (isWide : Bool) (left right : Text) : Except Text (List (Char × Char)) :=
  let left := widened isWide (withoutBackslashes (withSigns ['\\'] (left.length + 1) left))
  let right := widened isWide (withoutBackslashes (withSigns ['\\'] (right.length + 1) right))
  if left.length = right.length then .ok (left.zip right)
  else .error "strings for \x60y\x27 command are different lengths".toList

/-- The letters of steps that consist of nothing else. -/
def plainAction? : Char → Option EditAction
  | '=' => some .showNumber
  | 'd' => some .delete
  | 'D' => some .deleteFirst
  | 'F' => some .showName
  | 'g' => some .fromHold
  | 'G' => some .fromHoldAppended
  | 'h' => some .toHold
  | 'H' => some .toHoldAppended
  | 'n' => some .next
  | 'N' => some .nextAppended
  | 'p' => some .print
  | 'P' => some .printFirst
  | 'x' => some .swap
  | 'z' => some .empty
  | _ => none

/-- The highest group that is put in place of what has been found. -/
def highestGroup (parts : List ExchangePart) : Nat :=
  (parts.map fun
    | .group n => n
    | _ => 0).foldl max 0

/-- Reads what a step does, and what follows it; the flag tells whether something else may follow
only behind a separator. -/
def action? (rules : EditRules) : Text → Except Text (EditAction × Text × Bool)
  | [] => .error "missing command".toList
  | c :: rest =>
      match c, plainAction? c with
      | _, some action => .ok (action, rest, true)
      | '\x7b', _ => .ok (.opens 0, rest, false)
      | '\x7d', _ => .ok (.closes, rest, true)
      | ':', _ =>
          let (name, rest) := nameAfter rest
          if name.isEmpty then .error "\":\" lacks a label".toList
          else .ok (.label name, rest, false)
      | 'a', _ => do
          let (t, rest) ← stepText? rest
          return (.append t, rest, false)
      | 'i', _ => do
          let (t, rest) ← stepText? rest
          return (.insert t, rest, false)
      | 'c', _ => do
          let (t, rest) ← stepText? rest
          return (.change t, rest, false)
      | 'b', _ =>
          let (name, rest) := nameAfter rest
          .ok (.goTo name, rest, true)
      | 't', _ =>
          let (name, rest) := nameAfter rest
          .ok (.goIfChanged name, rest, true)
      | 'T', _ =>
          let (name, rest) := nameAfter rest
          .ok (.goUnlessChanged name, rest, true)
      | 'e', _ =>
          let t := (pastBlanks rest).takeWhile (· != '\n')
          .ok (.execute t, (pastBlanks rest).drop t.length, false)
      | 'l', _ =>
          let (n, rest) := numberAfter rest
          .ok (.list n, rest, true)
      | 'L', _ =>
          let (_, rest) := numberAfter rest
          .ok (.list none, rest, true)
      | 'q', _ =>
          let (n, rest) := numberAfter rest
          .ok (.quit (n.getD 0) true, rest, true)
      | 'Q', _ =>
          let (n, rest) := numberAfter rest
          .ok (.quit (n.getD 0) false, rest, true)
      | 'r', _ => do
          let (path, rest) ← pathAfter? rest
          return (.readFile path, rest, false)
      | 'R', _ => do
          let (path, rest) ← pathAfter? rest
          return (.readLine path, rest, false)
      | 'w', _ => do
          let (path, rest) ← pathAfter? rest
          return (.writeFile path, rest, false)
      | 'W', _ => do
          let (path, rest) ← pathAfter? rest
          return (.writeFirst path, rest, false)
      | 'v', _ =>
          let (_, rest) := nameAfter rest
          .ok (.label [], rest, true)
      | 's', _ =>
          match rest with
          | limit :: rest =>
              match upTo limit true rest with
              | none => .error "unterminated \x60s\x27 command".toList
              | some (source, rest) =>
                  match upTo limit false rest with
                  | none => .error "unterminated \x60s\x27 command".toList
                  | some (new, rest) => do
                      let f ← exchangeFlags (rest.length + 1)
                        ⟨none, false, false, false, false, false, none, rest⟩
                      let r ← expression? rules f.folds f.isLined source
                      let new := withSigns ['&', '\\'] (new.length + 1) new
                      let parts := exchangeParts new
                      let isBad := r.any fun r => r.groupCount < highestGroup parts
                      if isBad then
                        .error ("invalid reference \\".toList ++ Text.ofNat (highestGroup parts) ++
                          " on \x60s\x27 command\x27s RHS".toList)
                      else
                        let e : Exchange :=
                          ⟨r, parts, f.number.getD 1, f.isAll, f.shows, f.runs, f.file⟩
                        return (.exchange e, f.rest, true)
          | [] => .error "unterminated \x60s\x27 command".toList
      | 'y', _ =>
          match rest with
          | limit :: rest =>
              match upTo limit false rest with
              | none => .error "unterminated \x60y\x27 command".toList
              | some (left, rest) =>
                  match upTo limit false rest with
                  | none => .error "unterminated \x60y\x27 command".toList
                  | some (right, rest) => do
                      return (.translate (← pairs? rules.isWide left right), rest, true)
          | [] => .error "unterminated \x60y\x27 command".toList
      | c, _ => .error ("unknown command: \x60".toList ++ [c, '\x27'])

/-- Steps one after the other. -/
def steps? (rules : EditRules) : Nat → Text → Except Text (List EditStep)
  | 0, _ => .ok []
  | fuel + 1, t => do
      match pastEnds t with
      | [] => return []
      | '#' :: rest => steps? rules fuel (rest.dropWhile (· != '\n'))
      | t =>
          let (range, rest) ← range? rules t
          let rest := pastBlanks rest
          let signs := rest.takeWhile fun c => c == '!' || c == ' ' || c == '\t'
          let isTurned := signs.contains '!'
          if 1 < signs.count '!' then .error "multiple \x60!\x27s".toList
          else
            let rest := rest.drop signs.length
            let first := rest.head?.getD ' '
            if range.isSome && (first = ':' || first = '\x7d') then
              .error (if first = ':' then ": doesn\x27t want any addresses".toList
                else "\x7d doesn\x27t want any addresses".toList)
            else if (first = 'q' || first = 'Q') && (range.bind (·.stop)).isSome then
              .error "command only uses one address".toList
            else
              let (action, rest, isStrict) ← action? rules rest
              let after := pastBlanks rest
              let isEnded := match after with
                | [] => true
                | c :: _ => "\n;#\x7d\r".toList.contains c
              if isStrict && !isEnded then .error "extra characters after command".toList
              else
                let more ← steps? rules fuel (if isStrict then after else rest)
                return ⟨range, isTurned, action⟩ :: more

/-- The place behind the step that closes what has been opened, among those from a place on. -/
def closing? : Nat → Nat → List EditStep → Option Nat
  | _, _, [] => none
  | depth, n, step :: steps =>
      match step.action with
      | .opens _ => closing? (depth + 1) (n + 1) steps
      | .closes => if depth = 0 then some n else closing? (depth - 1) (n + 1) steps
      | _ => closing? depth (n + 1) steps

/-- Groups know where they end. -/
def linked? : Nat → Nat → List EditStep → Except Text (List EditStep)
  | depth, _, [] => if depth = 0 then .ok [] else .error "unmatched \x60\x7b\x27".toList
  | depth, n, step :: steps =>
      match step.action with
      | .opens _ =>
          match closing? 0 (n + 1) steps with
          | none => .error "unmatched \x60\x7b\x27".toList
          | some close => do
              return { step with action := .opens close } :: (← linked? (depth + 1) (n + 1) steps)
      | .closes =>
          if depth = 0 then .error "unexpected \x60\x7d\x27".toList
          else do return step :: (← linked? (depth - 1) (n + 1) steps)
      | _ => do return step :: (← linked? depth (n + 1) steps)

/-- The names of the labels. -/
def labels (steps : List EditStep) : List Text :=
  steps.filterMap fun step => match step.action with
    | .label name => some name
    | _ => none

/-- A label to which a step goes and that is not there. -/
def missingLabel? (steps : List EditStep) : Option Text :=
  steps.findSome? fun step =>
    let missing (name : Text) : Option Text :=
      if name.isEmpty || (labels steps).contains name then none else some name
    match step.action with
    | .goTo name => missing name
    | .goIfChanged name => missing name
    | .goUnlessChanged name => missing name
    | _ => none

/-- Reads a script. -/
def ofText (rules : EditRules) (t : Text) : Except Text (List EditStep) := do
  linked? 0 0 (← steps? rules (t.length + 1) t)

end EditScript

end KeyMenu.Sh
