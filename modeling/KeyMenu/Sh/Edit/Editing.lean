import KeyMenu.Sh.Edit.Script
import KeyMenu.Sh.Tool.Line

/-!
# Editing lines

A script is carried out for one line after the other (`Editing.cycles`). The line that is being
edited and a text that is held back make up the state (`Editing`), with what is still to be read and
what is to be shown later. `streamEdit` is the program that does this.
-/

namespace KeyMenu.Sh

/-- A line that is to be read: its text, whether it has an end, the file in which it stands, and
whether it is the last one there. -/
structure InputLine where
  text : Text
  hasEnd : Bool
  file : Text
  isLast : Bool

/-- What is shown at the end of a round: a text, a file, or the next line of one. -/
inductive Later
  | plain (t : Text)
  | file (path : Text)
  | line (path : Text)

/-- How lines are edited: the steps, whether lines are shown without being asked to, the sign at the
ends of lines, whether files count for themselves, whether they are changed and under which name
they are kept, and the width of lines that are spelled out. -/
structure EditManner where
  steps : Array EditStep
  isSilent : Bool
  limit : Char
  isSeparate : Bool
  changesFiles : Bool
  backup : Text
  width : Nat
  isWide : Bool
  isSafe : Bool

/-- What is being edited: the process, lines to come, the present one, its text and the one that is
held back, its number, what is to be shown later, whether something has been put in place of
something else, the ranges that are open with the numbers where they end, the expression used last,
what has been shown, files whose last line has no end yet, lines of files that are read one by one,
and how many bytes of the input have been read. -/
structure Editing where
  state : State
  ahead : List InputLine
  current : InputLine
  space : Text
  hasEnd : Bool
  held : Text
  heldHasEnd : Bool
  number : Nat
  later : List Later
  isChanged : Bool
  ranges : Table (Option Nat)
  last : Option Regular
  shown : List Text
  isOpen : Bool
  openFiles : List Text
  readers : Table (List Text)
  read : Nat

/-- What comes of a round. -/
inductive RoundEnd
  | finished
  | deleted
  | begunAnew
  | quit (status : Int) (shows : Bool)
  | failed (message : Text)
  | endless

namespace Editing

/-! ### Output -/

/-- Shows a text. -/
def emit (t : Text) (e : Editing) : Editing :=
  { e with shown := t :: (if e.isOpen then ['\n'] :: e.shown else e.shown), isOpen := false }

/-- Shows a line; what lacks its end gets it only if more follows. -/
def emitLine (m : EditManner) (t : Text) (hasEnd : Bool) (e : Editing) : Editing :=
  let e := e.emit (t ++ if hasEnd then [m.limit] else [])
  { e with isOpen := !hasEnd }

/-- Hands on what has been shown: to the output, or to the file that is changed. -/
def flush (m : EditManner) (e : Editing) : Editing :=
  let t := e.shown.reverse.flatten
  if m.changesFiles then
    if e.current.file.isEmpty then { e with shown := [] }
    else
      let path := e.current.file
      let name (suffix : Text) : Text :=
        if suffix.contains '*' then suffix.flatMap fun c => if c = '*' then baseName path else [c]
        else baseName path ++ suffix
      let kept : State := if m.backup.isEmpty then e.state
        else
          match e.state.textAt path with
          | .ok (s, before) =>
              s.save "sed" (if m.backup.contains '/' then name m.backup
                else if path.contains '/' then under (directoryName path) (name m.backup)
                else name m.backup) before
          | .error _ => e.state
      { e with state := kept.save "sed" path t, shown := [], isOpen := false }
  else { e with state := e.state.put t, shown := [] }

/-- Writes a line into a file. -/
def writeLine (m : EditManner) (path t : Text) (hasEnd : Bool) (e : Editing) : Editing :=
  if path = "/dev/stdout".toList then
    if m.changesFiles then { e with state := e.state.put (t ++ [m.limit]) }
    else e.emitLine m t hasEnd
  else if path = "/dev/stderr".toList then { e with state := e.state.mutter (t ++ [m.limit]) }
  else
    let start := if e.openFiles.contains path then ['\n'] else []
    let others := e.openFiles.filter (· != path)
    match e.state.writeAt path (start ++ t ++ if hasEnd then [m.limit] else []) .append with
    | .ok s => { e with state := s, openFiles := if hasEnd then others else path :: others }
    | .error _ => e

/-- Shows what had to wait until the end of a round. -/
def showLater (m : EditManner) (e : Editing) : Editing :=
  let e' := e.later.foldl (fun e item =>
    match item with
    | .plain t => e.emit t
    | .file path =>
        let found := if path = "/dev/stdin".toList then some e.state.readAll
          else (e.state.textAt path).toOption
        match found with
        | some (s, t) => if t.isEmpty then { e with state := s } else { e with state := s }.emit t
        | none => e
    | .line path =>
        let lines := match Table.get? e.readers path with
          | some lines => lines
          | none => (((e.state.textAt path).toOption.map Prod.snd).map (wholeLines '\n')).getD []
        match lines with
        | [] => { e with readers := Table.put e.readers path [] }
        | line :: lines =>
            let hasEnd := line.getLast? = some '\n'
            { e with readers := Table.put e.readers path lines }.emitLine m
              (if hasEnd then line.dropLast else line) true) e
  { e' with later := [] }

/-! ### Input -/

/-- There is no more line to come. -/
def isAtEnd (m : EditManner) (e : Editing) : Bool :=
  e.ahead.isEmpty || (m.isSeparate && e.current.isLast)

/-- Reads the next line; the text becomes what `join` makes of the one before and the new one. -/
def readNext? (m : EditManner) (join : Text → Text → Text) (e : Editing) : Option Editing :=
  match e.ahead with
  | [] => none
  | line :: lines =>
      let e := { e.showLater m with isChanged := false }
      let isNew := m.isSeparate && e.current.isLast
      let e := if isNew then { e.flush m with number := 0, held := [], ranges := [] } else e
      let isInput := line.file = ['-']
      some { e with
        ahead := lines
        current := line
        space := join e.space line.text
        hasEnd := line.hasEnd
        number := e.number + 1
        read := if isInput then e.read + line.text.length + 1 else e.read }

/-! ### Places -/

/-- The expression of a place, or the one used last. -/
def expression? (r : Option Regular) (e : Editing) : Option Regular := r.or e.last

/-- The present line is one of a place. There is nothing if no expression has been used before. -/
def isAt? (m : EditManner) (p : LinePlace) (e : Editing) : Option (Bool × Editing) :=
  match p with
  | .number n => some (e.number == n, e)
  | .last => some (e.isAtEnd m, e)
  | .every first step => some (first ≤ e.number && (e.number - first) % step == 0, e)
  | .fitting r => do
      let r ← e.expression? r
      return (r.occursIn (widened m.isWide e.space), { e with last := some r })

/-- The range of a step is open; up to which number, if that is known. -/
def openRange? (e : Editing) (step : Nat) : Option (Option Nat) :=
  Table.get? e.ranges (Text.ofNat step)

/-- Opens the range of a step or closes it. -/
def setRange (step : Nat) (range : Option (Option Nat)) (e : Editing) : Editing :=
  let others := e.ranges.filter (·.1 != Text.ofNat step)
  { e with ranges := match range with
      | some stop => (Text.ofNat step, stop) :: others
      | none => others }

/-- The present line is in a range. -/
def isIn? (m : EditManner) (step : Nat) (range : LineRange) (e : Editing) :
    Option (Bool × Editing) :=
  match range.stop with
  | none => e.isAt? m range.first
  | some stop =>
      let begin' (e : Editing) : Option (Bool × Editing) := do
        let (isFirst, e) ← e.isAt? m range.first
        if !isFirst then return (false, e)
        else
          match stop with
          | .at (.number n) =>
              if n ≤ e.number then return (true, e)
              else return (true, e.setRange step (some (some n)))
          | .after n =>
              if n = 0 then return (true, e)
              else return (true, e.setRange step (some (some (e.number + n))))
          | .multiple n =>
              if n = 0 || e.number % n = 0 then return (true, e)
              else return (true, e.setRange step (some (some ((e.number / n + 1) * n))))
          | .at .last =>
              return (true, if e.isAtEnd m then e else e.setRange step (some none))
          | _ => return (true, e.setRange step (some none))
      let isFromStart := match range.first with
        | .number 0 => e.number == 1
        | _ => false
      match (e.openRange? step).or (if isFromStart then some none else none), stop with
      | none, _ => begin' e
      | some (some n), _ =>
          if e.number < n then some (true, e)
          else if e.number = n then some (true, e.setRange step none)
          else begin' (e.setRange step none)
      | some none, .at place => do
          let (isLast, e) ← e.isAt? m place
          return (true, e.setRange step (if isLast then none else some none))
      | some none, _ => some (true, e)

/-! ### Putting something in place of what is found -/

/-- How the next letter and those behind it are shown. -/
structure Casing where
  all : LetterCase
  next : LetterCase

/-- A text as letters are to be shown. -/
def cased (c : Casing) (t : Text) : Text × Casing :=
  match t with
  | [] => ([], c)
  | first :: rest =>
      let rule (t : Text) : Text := match c.all with
        | .capitals => t.map capital
        | .smalls => t.map small
        | _ => t
      let head := match c.next with
        | .nextCapital => [capital first]
        | .nextSmall => [small first]
        | _ => rule [first]
      (head ++ rule rest, { c with next := .asTheyAre })

/-- What is put in place of what has been found. -/
def put (parts : List ExchangePart) (line : Text) (f : Found) : Text :=
  let (t, _) := parts.foldl (fun (t, c) part =>
    match part with
    | .plain new =>
        let (new, c) := cased c new
        (t ++ new, c)
    | .group n =>
        let (new, c) := cased c ((f.group? line n).getD [])
        (t ++ new, c)
    | .letters .capitals => (t, ⟨.capitals, .asTheyAre⟩)
    | .letters .smalls => (t, ⟨.smalls, .asTheyAre⟩)
    | .letters .asTheyAre => (t, ⟨.asTheyAre, .asTheyAre⟩)
    | .letters next => (t, { c with next := next })) ([], (⟨.asTheyAre, .asTheyAre⟩ : Casing))
  t

/-- A line after something has been put in place of what is found, if anything is. -/
def exchanged? (x : Exchange) (r : Regular) (line : Text) : Option Text :=
  let found := r.findAll true line (line.length + 2) 0 none
  let chosen := found.drop (x.from' - 1)
  let chosen := if x.isAll then chosen else chosen.take 1
  if chosen.isEmpty then none
  else
    let (t, place) := chosen.foldl (fun (t, place) f =>
      (t ++ (line.take f.start).drop place ++ put x.parts line f, f.stop)) ([], 0)
    some (t ++ line.drop place)

/-- The text of a line with all its signs to be seen, in pieces of a width. -/
def spelledOut (width : Nat) (t : Text) : Text :=
  let sign (c : Char) : Text :=
    match c with
    | '\\' => "\\\\".toList
    | '\x07' => "\\a".toList
    | '\x08' => "\\b".toList
    | '\x0c' => "\\f".toList
    | '\n' => "\\n".toList
    | '\r' => "\\r".toList
    | '\t' => "\\t".toList
    | '\x0b' => "\\v".toList
    | c =>
        if 0x20 ≤ c.toNat && c.toNat < 0x7f then [c]
        else '\\' :: (inBase 8 (512 + c.toNat)).tail
  let (lines, line) := t.foldl (fun (lines, line) c =>
    let s := sign c
    if 1 < width && width - 1 < line.length + s.length then
      (lines ++ line ++ "\\\n".toList, s)
    else (lines, line ++ s)) (([], []) : Text × Text)
  lines ++ line ++ "$\n".toList

/-! ### Rounds -/

/-- Runs a command by a shell; what it writes is shown at once or given back. -/
def execute (r : Runners) (m : EditManner) (command : Text) (e : Editing) : Editing × Text :=
  let e := if m.changesFiles then e else e.flush m
  let (s, t) := e.state.captured (r.shell command)
  ({ e with state := s.withStatus 0 }, t)

/-- The place behind a label; without a name it is the end. -/
def placeOf (m : EditManner) (name : Text) : Nat :=
  if name.isEmpty then m.steps.size
  else
    (m.steps.findIdx? fun step => match step.action with
      | .label n => n == name
      | _ => false).getD m.steps.size

/-- The text up to the end of its first line. -/
def firstLine (m : EditManner) (t : Text) : Text := t.takeWhile (· != m.limit)

/-- Carries out steps from a place on. -/
def round (r : Runners) (m : EditManner) : Nat → Nat → Editing → RoundEnd × Editing
  | 0, _, e => (.endless, e)
  | fuel + 1, place, e =>
      match m.steps[place]? with
      | none => (.finished, e)
      | some step =>
          let chosen := match step.range with
            | none => some (true, e)
            | some range => e.isIn? m place range
          match chosen with
          | none => (.failed "no previous regular expression".toList, e)
          | some (isChosen, e) =>
            let goOn (e : Editing) : RoundEnd × Editing := round r m fuel (place + 1) e
            if isChosen == step.isTurned then
              match step.action with
              | .opens close => round r m fuel (close + 1) e
              | _ => goOn e
            else
              match step.action with
              | .opens _ => goOn e
              | .closes => goOn e
              | .label _ => goOn e
              | .goTo name => round r m fuel (placeOf m name) e
              | .goIfChanged name =>
                  if e.isChanged then round r m fuel (placeOf m name) { e with isChanged := false }
                  else goOn e
              | .goUnlessChanged name =>
                  if e.isChanged then goOn { e with isChanged := false }
                  else round r m fuel (placeOf m name) e
              | .showNumber => goOn (e.emit (Text.ofNat e.number ++ ['\n']))
              | .append t => goOn { e with later := e.later ++ [.plain t] }
              | .insert t => goOn (e.emit t)
              | .change t =>
                  let isLast := (step.range.bind (·.stop)).isNone || (e.openRange? place).isNone ||
                    step.isTurned
                  (.deleted, if isLast then e.emit t else e)
              | .delete => (.deleted, e)
              | .deleteFirst =>
                  if e.space.contains m.limit then
                    let rest := e.space.drop ((firstLine m e.space).length + 1)
                    (.begunAnew, { e with space := rest })
                  else (.deleted, e)
              | .execute command =>
                  if m.isSafe then (.failed "e/r/w commands disabled in sandbox mode".toList, e)
                  else if command.isEmpty then
                    let (e, t) := e.execute r m e.space
                    goOn { e with space := if t.getLast? = some '\n' then t.dropLast else t }
                  else
                    let (e, t) := e.execute r m command
                    goOn (if t.isEmpty then e else e.emit t)
              | .showName => goOn (e.emit (e.current.file ++ ['\n']))
              | .fromHold => goOn { e with space := e.held, hasEnd := e.heldHasEnd }
              | .fromHoldAppended =>
                  goOn { e with space := e.space ++ m.limit :: e.held, hasEnd := e.heldHasEnd }
              | .toHold => goOn { e with held := e.space, heldHasEnd := e.hasEnd }
              | .toHoldAppended =>
                  goOn { e with held := e.held ++ m.limit :: e.space, heldHasEnd := e.hasEnd }
              | .swap => goOn { e with
                  space := e.held
                  hasEnd := e.heldHasEnd
                  held := e.space
                  heldHasEnd := e.hasEnd }
              | .list width => goOn (e.emit (spelledOut (width.getD m.width) e.space))
              | .next =>
                  if e.isAtEnd m then (.finished, e)
                  else
                    let e := if m.isSilent then e else e.emitLine m e.space e.hasEnd
                    match e.readNext? m (fun _ line => line) with
                    | some e => goOn e
                    | none => (.deleted, e)
              | .nextAppended =>
                  if e.isAtEnd m then (.finished, e)
                  else
                    match e.readNext? m (fun before line => before ++ m.limit :: line) with
                    | some e => goOn e
                    | none => (.finished, e)
              | .print => goOn (e.emitLine m e.space e.hasEnd)
              | .printFirst => goOn (e.emitLine m (firstLine m e.space) true)
              | .quit status shows => (.quit status shows, e)
              | .readFile path => goOn { e with later := e.later ++ [.file path] }
              | .readLine path => goOn { e with later := e.later ++ [.line path] }
              | .writeFile path => goOn (e.writeLine m path e.space e.hasEnd)
              | .writeFirst path => goOn (e.writeLine m path (firstLine m e.space) true)
              | .translate pairs =>
                  let wide := (widened m.isWide e.space).map fun c =>
                    ((pairs.find? (·.1 == c)).map Prod.snd).getD c
                  goOn { e with space := narrowed m.isWide wide }
              | .empty => goOn { e with space := [] }
              | .exchange x =>
                  match e.expression? x.expression with
                  | none => (.failed "no previous regular expression".toList, e)
                  | some found =>
                    let e := { e with last := some found }
                    match exchanged? x found (widened m.isWide e.space) with
                    | none => goOn e
                    | some new =>
                        let e := { e with space := narrowed m.isWide new, isChanged := true }
                        let e := if x.runs then
                            let (e, t) := e.execute r m e.space
                            { e with space := if t.getLast? = some '\n' then t.dropLast else t }
                          else e
                        let e := if x.shows then e.emitLine m e.space e.hasEnd else e
                        goOn (x.file.elim e fun path => e.writeLine m path e.space e.hasEnd)

/-- A round takes at most so many steps. -/
def roundSteps : Nat := 300000

/-- One round after the other. -/
def cycles (r : Runners) (m : EditManner) : Nat → Bool → Editing → Editing
  | 0, _, e => e
  | fuel + 1, reads, e =>
      let next := if reads then e.readNext? m (fun _ line => line) else some e
      match next with
      | none => (e.showLater m).flush m
      | some e =>
          let (outcome, e) := round r m roundSteps 0 e
          let shown (e : Editing) : Editing :=
            if m.isSilent then e else e.emitLine m e.space e.hasEnd
          if e.state.isStopped then e.flush m
          else
            match outcome with
            | .finished => cycles r m fuel true ((shown e).showLater m)
            | .deleted => cycles r m fuel true (e.showLater m)
            | .begunAnew => cycles r m fuel false (e.showLater m)
            | .quit status shows =>
                let e := if shows then (shown e).showLater m else e
                let e := if m.changesFiles then
                    e.ahead.foldl (fun e line =>
                      if line.file = e.current.file
                          then e.emitLine m line.text line.hasEnd else e) e
                  else e
                let e := e.flush m
                { e with state := e.state.withStatus status }
            | .failed message =>
                let e := e.flush m
                { e with state := e.state.complain 1 "sed".toList message }
            | .endless =>
                let e := e.flush m
                { e with state := e.state.endless }

end Editing

/-! ### The program -/

/-- The lines of a file. -/
def inputLines (limit : Char) (file t : Text) : List InputLine :=
  let lines := wholeLines limit t
  (lines.zipIdx).map fun (line, n) =>
    let hasEnd := line.getLast? = some limit
    ⟨if hasEnd then line.dropLast else line, hasEnd, file, n + 1 = lines.length⟩

/-- The files into which a script writes. -/
def EditScript.files (steps : List EditStep) : List Text :=
  (steps.filterMap fun step => match step.action with
    | .writeFile path => some path
    | .writeFirst path => some path
    | .exchange e => e.file
    | _ => none).eraseDups

/-- The lines of all files; the status tells if one is missing. Nothing is read behind a
directory. -/
def State.editedLines (limit : Char) (changesFiles : Bool) (names : List Text) (s : State) :
    State × List InputLine :=
  names.foldl (fun (s, lines) name =>
    let complain (n : Int) (t : Text) : State := s.complain n "sed".toList t
    if s.isStopped || (s.status = 4 && !changesFiles) then (s, lines)
    else if name = ['-'] && !changesFiles then
      let t := s.ahead 0
      (s, lines ++ inputLines limit name t)
    else
      match s.contentAt? name with
      | some (.directory _) =>
          if changesFiles then
            (complain 4 ("couldn\x27t edit ".toList ++ name ++
              ": not a regular file".toList), lines)
          else (complain 4 ("read error on ".toList ++ name ++ ": Is a directory".toList), lines)
      | _ =>
          match s.textAt name with
          | .ok (s, t) => (s, lines ++ inputLines limit name t)
          | .error fault =>
              (complain 2 ("can\x27t read ".toList ++ name ++ ": ".toList ++ fault.message), lines))
    (s, [])

/-- Edits files, or the input, line by line. -/
def streamEdit : Agent := fun r words s =>
  let who := "sed".toList
  let usage (n : Int) (s : State) : State := s.complain n who "Usage: sed [OPTION]...".toList
  match Given.ofWords ⟨"bnf:e:i?El:rsuz", ["expression=e", "file=f", "in-place=i", "line-length=l",
      "regexp-extended=E", "quiet=n", "silent=n", "separate=s", "unbuffered=u", "null-data=z",
      "zero-terminated=z", "binary=b", "posix", "debug", "sandbox", "follow-symlinks"],
        false⟩ words with
  | .error message => s.complain 1 who message
  | .ok g =>
      if g.hasLong "help" then s.write "Usage: sed [OPTION]...\n".toList
      else if g.hasLong "version" then s.write "sed (GNU sed) 4.9\n".toList
      else
        let pieces := g.options.filter fun (key, _) => key == ['e'] || key == ['f']
        let gathered : Except Text (List Text) := pieces.mapM fun (key, value) =>
          if key = ['e'] then .ok value
          else if value = ['-'] then .ok (s.ahead 0)
          else
            match s.textAt value with
            | .ok (_, t) => .ok (if t.getLast? = some '\n' then t.dropLast else t)
            | .error fault => .error ("couldn\x27t open file ".toList ++ value ++ ": ".toList ++
                fault.message)
        match gathered, pieces.isEmpty, g.operands with
        | .error message, _, _ => s.complain 4 who message
        | .ok _, true, [] => usage 1 s
        | .ok texts, isEmpty, operands =>
            let texts := if isEmpty then operands.take 1 else texts
            let files := if isEmpty then operands.drop 1 else operands
            let script := Text.joinWith ['\n'] texts
            let isSilenced := "#n\n".toList.isPrefixOf script || script = "#n".toList
            let isRich := g.has 'E' || g.has 'r'
            let manner := Manner.ofStyle (if isRich then .extended else .basic)
            match EditScript.ofText ⟨manner, s.isWide⟩ script with
            | .error message => s.complain 1 who ("-e expression #1: ".toList ++ message)
            | .ok steps =>
                match EditScript.missingLabel? steps with
                | some name =>
                    s.complain 4 who ("can\x27t find label for jump to \x60".toList ++
                      name ++ ['\x27'])
                | none =>
                  if g.has 'i' && files.isEmpty then s.complain 4 who "no input files".toList
                  else
                    let limit := if g.has 'z' then '\x00' else '\n'
                    let m : EditManner := ⟨steps.toArray, g.has 'n' || isSilenced, limit,
                      g.has 's' || g.has 'i', g.has 'i', (g.value? 'i').getD [],
                      ((g.value? 'l').map digitsValue).getD 70, s.isWide, g.hasLong "sandbox"⟩
                    let s := (EditScript.files steps).foldl (fun s path =>
                      if path = "/dev/stdout".toList || path = "/dev/stderr".toList then s
                      else
                        match s.writeAt path [] .write with
                        | .ok s => s
                        | .error fault => s.complain 4 who ("couldn\x27t open file ".toList ++
                            path ++
                            ": ".toList ++ fault.message)) (s.withStatus 0)
                    if s.status ≠ 0 then s
                    else
                      let files := if files.isEmpty then [['-']] else files
                      let (s, lines) := s.editedLines limit (g.has 'i') files
                      let status := s.status
                      let whole := s.ahead 0
                      let none' : InputLine := ⟨[], true, [], false⟩
                      let e : Editing := ⟨s.withStatus 0, lines, none', [], true, [],
                          true, 0, [], false,
                        [], none, [], false, [], [], 0⟩
                      let e := e.cycles r m (2 * lines.length + script.length + 100000) true
                      let s := e.state
                      let s := if !files.contains ['-'] then s
                        else if e.ahead.isEmpty then s.readAll.1
                        else s.consume 4096 (min e.read whole.length)
                      if s.isStopped then s
                      else if s.status = 0 then s.withStatus status else s

/-- What is found may stand in what is put in its place. -/
example : (Editing.exchanged? ⟨none, EditScript.exchangeParts "<\\u&>".toList, 1,
    true, false, false,
    none⟩ (.ofText false "ab".toList) "abxab".toList) = some "<Ab>x<Ab>".toList := by decide +kernel

end KeyMenu.Sh
