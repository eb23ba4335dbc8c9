import KeyMenu.Sh.Regular.Reader
import KeyMenu.Sh.Tool.Look

/-!
# Programs for lines

The programs that show a part of a text, or each of its lines in another way: beginnings and ends,
counts, columns, numbers, widths and blanks.
-/

namespace KeyMenu.Sh

/-- The lines of a text with their ends. -/
def wholeLines (limit : Char) (t : Text) : List Text := t.splitBy fun a _ => a != limit

/-- A program fails over a number. -/
def State.missNumber (who what text : Text) (s : State) : State :=
  s.complain 1 who ("invalid ".toList ++ what ++ ": ".toList ++ inQuotes text)

/-! ### Beginnings and ends -/

/-- How much of a text is shown: lines or bytes, from which end the number counts, and the
number. -/
structure Portion where
  isLines : Bool
  fromOther : Bool
  count : Nat

/-- The portion that options ask for; the number may have a sign that counts from the other end. -/
def portion? (g : Given) (sign : Char) : Except Text Portion :=
  let last := (g.options.filter fun (key, _) => key == ['n'] || key == ['c']).getLast?
  match last with
  | none => .ok ⟨true, false, 10⟩
  | some (key, value) =>
      let turned := value.head? = some sign
      let digits := if value.head? = some '+' || value.head? = some '-' then value.tail else value
      match sizeOf? digits with
      | some n => .ok ⟨key == ['n'], turned, n⟩
      | none => .error value

/-- Old options are numbers behind a dash. -/
def oldNumber (words : List Text) : List Text :=
  match words with
  | ('-' :: c :: rest) :: words =>
      if !c.isDigit then ('-' :: c :: rest) :: words
      else
        let digits := (c :: rest).takeWhile Char.isDigit
        let letters := (c :: rest).drop digits.length
        let more := letters.filter fun c => c != 'c' && c != 'l'
        let key := if letters.contains 'c' then ['-', 'c'] else ['-', 'n']
        key :: digits :: (if more.isEmpty then [] else ['-' :: more]) ++ words
  | words => words

/-- The beginning of a text. -/
def Portion.beginning (p : Portion) (limit : Char) (t : Text) : Text :=
  if p.isLines then
    let lines := wholeLines limit t
    (if p.fromOther then lines.take (lines.length - p.count) else lines.take p.count).flatten
  else if p.fromOther then t.take (t.length - p.count)
  else t.take p.count

/-- The end of a text. -/
def Portion.ending (p : Portion) (limit : Char) (t : Text) : Text :=
  if p.isLines then
    let lines := wholeLines limit t
    (if p.fromOther then lines.drop (p.count - 1) else lines.drop (lines.length - p.count)).flatten
  else if p.fromOther then t.drop (p.count - 1)
  else t.drop (t.length - p.count)

/-- Shows parts of several files, with their names in between. -/
def showParts (who : String) (g : Given) (part : Text → Text) (s : State) : State :=
  let names := if g.operands.isEmpty then [['-']] else g.operands
  let isTitled := g.has 'v' || (1 < names.length && !g.has 'q')
  let (s, _) := names.foldl (fun (s, isFirst) name =>
    if s.isStopped then (s, isFirst)
    else
      let (s, texts) := s.gather who 1 [name]
      match texts with
      | [(_, t)] =>
          let title := if name = ['-'] then "standard input".toList else name
          let head := if isTitled then (if isFirst then [] else ['\n']) ++ "==> ".toList ++ title ++
            " <==\n".toList else []
          (s.put (head ++ part t), false)
      | _ => (s, isFirst)) (s, true)
  s

/-- Shows the beginnings of files. -/
def showBeginnings : Tool := fun words =>
  optioned "head" "c:n:qvz" ["bytes=c", "lines=n", "quiet=q", "silent=q", "verbose=v",
    "zero-terminated=z"] 1 (fun g s =>
    match portion? g '-' with
    | .error text => s.missNumber "head".toList "number of lines".toList text
    | .ok p =>
        let limit := if g.has 'z' then '\x00' else '\n'
        let isPlain := !p.fromOther && (g.operands.isEmpty || g.operands = [['-']]) && !g.has 'v'
        if !isPlain then
          let isEndless := g.operands.any fun name =>
            match s.contentAt? name with
            | some (.device name) => name = "zero".toList || name = "urandom".toList
            | _ => false
          if isEndless && !p.isLines && !p.fromOther then s.put (List.replicate p.count '\x00')
          else showParts "head" g (p.beginning limit) s
        else if p.isLines then
          let t := p.beginning limit (s.ahead 0)
          (s.put t).consume 8192 t.length
        else
          match s.opening? 0 with
          | none => s.complain 1 "head".toList "error reading \x27standard input\x27".toList
          | some n =>
              let (t, world) := s.world.taken n p.count
              { s with world := world }.put t) (oldNumber words)

/-- Shows the ends of files. -/
def showEnds : Tool := fun words =>
  let words := match words with
    | ('+' :: c :: rest) :: words =>
        if c.isDigit then ['-', 'n'] :: ('+' :: c :: rest) :: words else ('+' :: c :: rest) :: words
    | words => oldNumber words
  optioned "tail" "c:f?Fn:qs:vz" ["bytes=c", "follow=f", "lines=n", "pid:", "quiet=q", "retry",
    "silent=q", "sleep-interval=s", "verbose=v", "zero-terminated=z", "max-unchanged-stats:"] 1
    (fun g s =>
    match portion? g '+' with
    | .error text => s.missNumber "tail".toList "number of lines".toList text
    | .ok p =>
        let after := showParts "tail" g (p.ending (if g.has 'z' then '\x00' else '\n')) s
        if (g.has 'f' || g.has 'F') && after.status = 0 then
          match g.longValue? "pid" with
          | some _ => after
          | none => after.endless
        else after) words

/-! ### Counts -/

/-- The number of words between white space. -/
def wordCount (t : Text) : Nat :=
  let isSpace (c : Char) : Bool := c == ' ' || ('\t' ≤ c && c ≤ '\x0d')
  (t.foldl (fun (n, inside) c =>
    if isSpace c then (n, false) else (if inside then n else n + 1, true)) (0, false)).1

/-- The width of the longest line; tabs lead to the next multiple of eight. -/
def longestLine (t : Text) : Nat :=
  (t.foldl (fun (most, now) c =>
    let now := if c = '\n' || c = '\r' || c = '\x0c' then 0
      else if c = '\t' then now + 8 - now % 8
      else if c.toNat < 0x20 || 0x7f ≤ c.toNat then now else now + 1
    (max most now, now)) (0, 0)).1

/-- Counts lines, words, letters and bytes. -/
def countAll : Tool := optioned "wc" "clmLw" ["bytes=c", "lines=l", "chars=m", "max-line-length=L",
    "words=w", "total:", "files0-from:"] 1 fun g s =>
  let has (c : Char) : Bool := g.has c
  let isStandard := !"clmLw".toList.any has
  let columns (t : Text) : List Nat :=
    (if isStandard || has 'l' then [t.count '\n'] else []) ++
      (if isStandard || has 'w' then [wordCount t] else []) ++
      (if has 'm' then [(characters s.isWide t.length t).length] else []) ++
      (if isStandard || has 'c' then [t.length] else []) ++
      (if has 'L' then [longestLine t] else [])
  let number := if isStandard then 3 else ("clmLw".toList.filter has).length
  let names := if g.operands.isEmpty then [['-']] else g.operands
  let sizes := names.map fun name =>
    if name = ['-'] then
      match (s.opening? 0).map fun n => (s.world.opening n).target with
      | some (.file inode) => some (s.world.store.size inode)
      | _ => none
    else
      match s.inodeAt true name with
      | .ok n => if (s.world.store.content n matches .plain _) ||
            (s.world.store.content n matches .program _) then some (s.world.store.size n) else none
      | .error _ => some 0
  let total := (sizes.filterMap id).foldl (· + ·) 0
  let width := if names.length = 1 && number = 1 then 1
    else max (Text.ofNat total).length (if sizes.contains none then 7 else 1)
  let line (values : List Nat) (name : Text) : Text :=
    Text.joinWith [' '] (values.map fun n => rightIn width (Text.ofNat n)) ++
      (if name.isEmpty then [] else ' ' :: name) ++ ['\n']
  let (s, texts) := s.gather "wc" 1 g.operands
  let lines := texts.flatMap fun (name, t) => line (columns t) (if g.operands.isEmpty
      then [] else name)
  let sums := (texts.map fun (_, t) => columns t).foldl (fun sums values =>
    (sums.zip values).map fun (a, b) => a + b) (List.replicate number 0)
  let showsTotal := match (g.longValue? "total").map String.ofList with
    | some "always" => true
    | some "only" => true
    | some "never" => false
    | _ => 1 < names.length
  if g.longValue? "total" = some "only".toList then s.put (line sums [])
  else s.put (lines ++ (if showsTotal then line sums "total".toList else []))

/-! ### Columns -/

/-- The ranges of a list of numbers: each from a number to a number, or without end. -/
def rangesOf? (t : Text) : Option (List (Nat × Option Nat)) :=
  (splitAt ',' (t.map fun c => if isBlank c then ',' else c)).mapM fun part =>
    match Text.splitFirst ['-'] part with
    | none => (number part).map fun n => (n, some n)
    | some ([], []) => none
    | some ([], stop) => (number stop).map fun n => (1, some n)
    | some (start, []) => (number start).map fun n => (n, none)
    | some (start, stop) => do
        let m ← number start
        let n ← number stop
        if n < m then none else return (m, some n)
where
  isBlank (c : Char) : Bool := c == ' ' || c == '\t'
  /-- A number from one on. -/
  number (t : Text) : Option Nat :=
    if t.isEmpty || !t.all Char.isDigit || digitsValue t = 0 then none else some (digitsValue t)

/-- A number lies in one of the ranges. -/
def inRanges (ranges : List (Nat × Option Nat)) (n : Nat) : Bool :=
  ranges.any fun (start, stop) => start ≤ n && stop.all (n ≤ ·)

/-- Shows columns of lines. -/
def cutColumns : Tool := optioned "cut" "b:c:d:f:nsz" ["bytes=b", "characters=c", "delimiter=d",
    "fields=f", "complement", "only-delimited=s", "output-delimiter:", "zero-terminated=z"] 1
    fun g s =>
  let kinds := "bcf".toList.filter g.has
  match kinds with
  | [kind] =>
      match (g.value? kind).bind rangesOf? with
      | none => s.complain 1 "cut".toList "invalid field range".toList
      | some ranges =>
          let delimiter := (g.value? 'd').getD ['\t']
          if kind ≠ 'f' && g.has 'd' then
            s.complain 1 "cut".toList
              "an input delimiter may be specified only when operating on fields".toList
          else if kind ≠ 'f' && g.has 's' then
            s.complain 1 "cut".toList
              "suppressing non-delimited lines makes sense\n\tonly when operating on fields".toList
          else if 1 < delimiter.length then
            s.complain 1 "cut".toList "the delimiter must be a single character".toList
          else
            let isIn (n : Nat) : Bool := inRanges ranges n != g.hasLong "complement"
            let limit := if g.has 'z' then '\x00' else '\n'
            let sign := delimiter.head?.getD '\x00'
            let out := g.longValue? "output-delimiter"
            let ofFields (line : Text) : Option Text :=
              if !line.contains sign then if g.has 's' then none else some line
              else
                let parts := (splitAt sign line).zipIdx.filter fun (_, n) => isIn (n + 1)
                some (Text.joinWith (out.getD [sign]) (parts.map Prod.fst))
            let ofSigns (line : Text) : Text :=
              let kept := line.zipIdx.filter fun (_, n) => isIn (n + 1)
              match out with
              | none => kept.map Prod.fst
              | some out =>
                  let groups := kept.splitBy fun a b => a.2 + 1 == b.2 &&
                    !ranges.any fun (start, _) => start == b.2 + 1
                  Text.joinWith out (groups.map fun g => g.map Prod.fst)
            let (s, texts) := s.gather "cut" 1 g.operands
            let lines := texts.flatMap fun (_, t) => piecesEndedBy limit t
            s.put ((lines.filterMap fun line =>
              if kind = 'f' then ofFields line else some (ofSigns line)).flatMap (· ++ [limit]))
  | [] => s.complain 1 "cut".toList
      "you must specify a list of bytes, characters, or fields".toList
  | _ => s.complain 1 "cut".toList "only one list may be specified".toList

/-- The signs of a list of delimiters, in which a backslash introduces some. -/
def delimiters : Text → List Text
  | '\\' :: 'n' :: rest => ['\n'] :: delimiters rest
  | '\\' :: 't' :: rest => ['\t'] :: delimiters rest
  | '\\' :: '0' :: rest => [] :: delimiters rest
  | '\\' :: '\\' :: rest => ['\\'] :: delimiters rest
  | c :: rest => [c] :: delimiters rest
  | [] => []

/-- Texts with delimiters between them, which are taken in turn. -/
def joinedInTurn (signs : List Text) : Nat → List Text → Text
  | _, [] => []
  | _, [t] => t
  | n, t :: more =>
      t ++ (if signs.isEmpty then [] else (signs[n % signs.length]?).getD []) ++
        joinedInTurn signs (n + 1) more

/-- Puts lines of files beside each other, or the lines of one file in a row. -/
def paste : Tool := optioned "paste" "d:sz" ["delimiters=d", "serial=s", "zero-terminated=z"] 1
    fun g s =>
  let signs := delimiters ((g.value? 'd').getD ['\t'])
  let limit := if g.has 'z' then '\x00' else '\n'
  let dashes := (g.operands.filter (· = ['-'])).length
  let (s, texts) := s.gather "paste" 1 g.operands
  if s.status ≠ 0 then s
  else
    let first := texts.find? (·.1 = ['-'])
    let standard := ((first.map Prod.snd).map (piecesEndedBy limit)).getD []
    let columns := (texts.foldl (fun (columns, n) (name, t) =>
      if name = ['-'] && !g.has 's' then
        (columns ++ [(standard.zipIdx.filter fun (_, k) => k % max dashes 1 = n).map Prod.fst],
          n + 1)
      else (columns ++ [piecesEndedBy limit t], n)) (([] : List (List Text)), 0)).1
    if g.has 's' then
      s.put (columns.flatMap fun lines => joinedInTurn signs 0 lines ++ [limit])
    else
      let height := (columns.map List.length).foldl max 0
      s.put ((List.range height).flatMap fun n =>
        joinedInTurn signs 0 (columns.map fun lines => (lines[n]?).getD []) ++ [limit])

/-! ### Numbers and widths -/

/-- The state in which lines are numbered: the part of the page, the number, the blank lines before,
and what has been written. -/
structure Numbering where
  part : Char
  number : Int
  blanks : Nat
  lines : List Text

/-- A line is numbered in a style; of blank lines in a row only each of so many. -/
def isNumbered (style : Text) (group : Int) (line : Text) (blanks : Nat) : Bool :=
  match style with
  | ['a'] => !line.isEmpty || ((blanks : Int) + 1) % group = 0
  | ['t'] => !line.isEmpty
  | 'p' :: pattern =>
      ((Regular.ofText? (Manner.ofStyle .basic) pattern).map (·.occursIn line)).getD false
  | _ => false

/-- Numbers lines. -/
def numberLines : Tool := optioned "nl" "b:d:f:h:i:l:n:ps:v:w:" ["body-numbering=b",
    "section-delimiter=d", "footer-numbering=f", "header-numbering=h", "line-increment=i",
    "join-blank-lines=l", "number-format=n", "no-renumber=p", "number-separator=s",
    "starting-line-number=v", "number-width=w"] 1 fun g s =>
  let styleOf (part : Char) (standard : Text) : Text := (g.value? part).getD standard
  let integer (c : Char) (standard : Int) : Option Int := match g.value? c with
    | some t => number? .bash t
    | none => some standard
  let isStyle (t : Text) : Bool :=
    t = ['a'] || t = ['t'] || t = ['n'] ||
      (t.head? = some 'p' && (Regular.ofText? (Manner.ofStyle .basic) t.tail).isSome)
  match integer 'i' 1, integer 'v' 1, integer 'w' 6, integer 'l' 1 with
  | some step, some start, some width, some group =>
      let styles := [('b', styleOf 'b' ['t']), ('h', styleOf 'h' ['n']), ('f', styleOf 'f' ['n'])]
      let format := (g.value? 'n').getD "rn".toList
      if !styles.all (fun (_, t) => isStyle t) || width < 1 || group < 1 ||
          !(["ln".toList, "rn".toList, "rz".toList].contains format) then
        s.complain 1 "nl".toList "invalid numbering style".toList
      else
        let separator := (g.value? 's').getD ['\t']
        let mark := match g.value? 'd' with
          | some [c] => [c, ':']
          | some t => t
          | none => "\\:".toList
        let shown (n : Int) : Text :=
          let t := Text.ofInt n
          let width := width.toNat
          if format = "ln".toList then leftIn width t
          else if format = "rn".toList then rightIn width t
          else if n < 0 then '-' :: List.replicate (width - t.length) '0' ++ t.tail
          else List.replicate (width - t.length) '0' ++ t
        let style (part : Char) : Text :=
          ((styles.find? (·.1 == part)).map Prod.snd).getD ['n']
        let next (p : Numbering) (line : Text) : Numbering :=
          let begins (times : Nat) : Bool := line = (List.replicate times mark).flatten
          let turn (part : Char) : Numbering := { p with
            part := part
            number := if g.has 'p' then p.number else start
            lines := [] :: p.lines }
          if mark.isEmpty then p
          else if begins 3 then turn 'h'
          else if begins 2 then turn 'b'
          else if begins 1 then turn 'f'
          else if isNumbered (style p.part) group line p.blanks then
            { p with
              number := p.number + step
              blanks := 0
              lines := (shown p.number ++ separator ++ line) :: p.lines }
          else
            { p with
              blanks := if line.isEmpty then p.blanks + 1 else 0
              lines := (List.replicate (width.toNat + separator.length) ' ' ++ line) :: p.lines }
        let (s, t) := s.gatherAll "nl" 1 g.operands
        let done := (textLines t).foldl next ⟨'b', start, 0, []⟩
        s.put (ofLines done.lines.reverse)
  | _, _, _, _ => s.complain 1 "nl".toList "invalid number".toList

/-- The place behind a sign, where tabs lead to multiples of eight. -/
def placeAfter (counts : Bool) (place : Nat) (c : Char) : Nat :=
  if counts then place + 1
  else if c = '\t' then place + 8 - place % 8
  else if c = '\x08' then place - 1
  else if c = '\r' then 0
  else place + 1

/-- A line cut into pieces of a width, perhaps behind blanks. -/
def foldedLine (counts atBlanks : Bool) (width : Nat) : Nat → Text → Nat → Text → List Text
  | 0, begun, _, rest => [begun ++ rest]
  | _ + 1, begun, _, [] => [begun]
  | fuel + 1, begun, place, c :: rest =>
      let next := placeAfter counts place c
      if width < next && !begun.isEmpty then
        let after := (begun.reverse.takeWhile fun c => c != ' ' && c != '\t').reverse
        if atBlanks && after.length < begun.length then
          let place := after.foldl (placeAfter counts) 0
          begun.take (begun.length - after.length) ::
            foldedLine counts atBlanks width fuel after place (c :: rest)
        else begun :: foldedLine counts atBlanks width fuel [] 0 (c :: rest)
      else foldedLine counts atBlanks width fuel (begun ++ [c]) next rest

/-- Cuts lines to a width. -/
def fold : Tool := fun words =>
  let words := words.flatMap fun w => match w with
    | '-' :: c :: rest => if (c :: rest).all Char.isDigit then [['-', 'w'], c :: rest] else [w]
    | _ => [w]
  optioned "fold" "bsw:" ["bytes=b", "spaces=s", "width=w"] 1 (fun g s =>
    let width := (g.value? 'w').elim 80 digitsValue
    if width = 0 || (g.value? 'w').any (!·.all Char.isDigit) then
      s.complain 1 "fold".toList "invalid number of columns".toList
    else
      let (s, texts) := s.gather "fold" 1 g.operands
      s.put (texts.flatMap fun (_, t) => (wholeLines '\n' t).flatMap fun line =>
        let ends := line.getLast? = some '\n'
        let inside := if ends then line.dropLast else line
        Text.joinWith ['\n'] (foldedLine (g.has 'b') (g.has 's') width (2 * inside.length + 2) [] 0
          inside) ++ (if ends then ['\n'] else []))) words

/-- The places to which tabs lead. -/
def tabStops? (g : Given) : Option (List Nat) :=
  match g.values 't' with
  | [] => some [8]
  | texts => ((texts.flatMap (splitAt ',')).flatMap (splitAt ' ')).mapM fun t =>
      if t.isEmpty || !t.all Char.isDigit || digitsValue t = 0 then none else some (digitsValue t)

/-- The next place to which a tab leads. -/
def nextStop (stops : List Nat) (place : Nat) : Option Nat :=
  match stops with
  | [n] => some (place + n - place % n)
  | stops => stops.find? (place < ·)

/-- Puts blanks in the place of tabs. -/
def spread : Tool := optioned "expand" "it:" ["initial=i", "tabs=t"] 1 fun g s =>
  match tabStops? g with
  | none => s.complain 1 "expand".toList "tab size contains invalid character(s)".toList
  | some stops =>
      let line (t : Text) : Text :=
        (t.foldl (fun (out, place, isStart) c =>
          if c = '\t' && (isStart || !g.has 'i') then
            let next := (nextStop stops place).getD (place + 1)
            (out ++ [List.replicate (next - place) ' '], next, isStart)
          else (out ++ [[c]], if c = '\x08' then place - 1 else place + 1, isStart && c = ' '))
          (([] : List Text), 0, true)).1.flatten
      let (s, texts) := s.gather "expand" 1 g.operands
      s.put (texts.flatMap fun (_, t) => (wholeLines '\n' t).flatMap line)

/-- Puts tabs in the place of blanks. -/
def gatherBlanks : Tool := optioned "unexpand" "at:" ["all=a", "first-only", "tabs=t"] 1 fun g s =>
  match tabStops? g with
  | none => s.complain 1 "unexpand".toList "tab size contains invalid character(s)".toList
  | some stops =>
      let isAll := (g.has 'a' || g.has 't') && !g.hasLong "first-only"
      let line (t : Text) : Text :=
        let close (out : List Text) (blanks : Text) : List Text := out ++ [blanks]
        let (out, blanks, _, _) := t.foldl (fun (out, blanks, place, isStart) c =>
          if (c = ' ' || c = '\t') && (isAll || isStart) then
            let stop := (nextStop stops place).getD (place + 1)
            let next := if c = '\t' then stop else place + 1
            if next = stop && (c = '\t' || 1 < (blanks ++ [c]).length || blanks = ['\t']) then
              (close out ['\t'], ([] : Text), next, isStart)
            else (out, blanks ++ [c], next, isStart)
          else (close out (blanks ++ [c]), [], if c = '\x08' then place - 1 else place + 1, false))
          (([] : List Text), ([] : Text), 0, true)
        (close out blanks).flatten
      let (s, texts) := s.gather "unexpand" 1 g.operands
      s.put (texts.flatMap fun (_, t) => (wholeLines '\n' t).flatMap line)

/-! ### Order -/

/-- Shows lines, the last one first. -/
def backwards : Tool := optioned "tac" "brs:" ["before=b", "regex=r", "separator=s"] 1 fun g s =>
  let separator := (g.value? 's').getD ['\n']
  let pieces (t : Text) : List Text :=
    let r? := if g.has 'r' then Regular.ofText? (Manner.ofStyle .basic) separator
      else some (Regular.ofText false separator)
    match r? with
    | none => [t]
    | some r =>
        let found := r.findAll true t (t.length + 1) 0 none
        let cuts := found.map fun f => if g.has 'b' then f.start else f.stop
        let ends := cuts ++ [t.length]
        ((0 :: ends).zip ends).map fun (start, stop) => (t.take stop).drop start
  let (s, texts) := s.gather "tac" 1 g.operands
  s.put (texts.flatMap fun (_, t) => (pieces t).reverse.flatten)

/-- Turns every line around. -/
def mirror : Tool := optioned "rev" "0" ["zero=0"] 1 fun g s =>
  let (s, texts) := s.gather "rev" 1 g.operands
  let limit := if g.has '0' then '\x00' else '\n'
  s.put (texts.flatMap fun (_, t) => (wholeLines limit t).flatMap fun line =>
    if line.getLast? = some limit then line.dropLast.reverse ++ [limit] else line.reverse)

/-- Writes the input to files, and shows it. -/
def duplicate : Tool := optioned "tee" "aip?" ["append=a", "ignore-interrupts=i", "output-error?"] 1
    fun g s =>
  let access : World.Access := if g.has 'a' then .append else .write
  let (s, files) := g.operands.foldl (fun (s, files) path =>
    match s.openAt path access with
    | .ok (s, n) => (s, files ++ [n])
    | .error fault => (s.complain 1 "tee".toList (path ++ ": ".toList ++ fault.message), files))
    (s, ([] : List Nat))
  let t := s.ahead 0
  let s := s.put t
  let s := files.foldl (fun s n => match s.world.append? n t with
    | some world => { s with world := world }
    | none => s.withStatus 1) s
  s.readAll.1

/-! ### Paragraphs -/

/-- Words in lines of at most a width. -/
def filledLines (width : Nat) (words : List Text) : List Text :=
  let (lines, now) := words.foldl (fun ((lines, now) : List Text × Text) w =>
    if now.isEmpty then (lines, w)
    else if width < now.length + 1 + w.length then (lines ++ [now], w)
    else (lines, now ++ ' ' :: w)) ([], [])
  if now.isEmpty then lines else lines ++ [now]

/-- Fills lines to a width. -/
def fillLines : Tool := fun words =>
  let words := match words with
    | ('-' :: c :: rest) :: words =>
        if (c :: rest).all Char.isDigit then ['-', 'w'] :: (c :: rest) :: words
        else ('-' :: c :: rest) :: words
    | words => words
  optioned "fmt" "cp:stuw:g:" ["crown-margin=c", "prefix=p", "split-only=s", "tagged-paragraph=t",
    "uniform-spacing=u", "width=w", "goal=g"] 1 (fun g s =>
    let width := (g.value? 'w').elim 75 digitsValue
    let (s, texts) := s.gather "fmt" 1 g.operands
    let lines := texts.flatMap fun (_, t) => textLines t
    let isBlankLine (line : Text) : Bool := line.all fun c => c == ' ' || c == '\t'
    let indent (line : Text) : Text := line.takeWhile fun c => c == ' ' || c == '\t'
    let groups := lines.splitBy fun a b =>
      !isBlankLine a && !isBlankLine b && indent a = indent b && !g.has 's'
    s.put (ofLines (groups.flatMap fun group =>
      if group.all isBlankLine then group.map fun _ => []
      else
        let margin := indent (group.headD [])
        let words := group.flatMap fun line =>
          ((line.map fun c => if c = '\t' then ' ' else c) |> splitAt ' ').filter (!·.isEmpty)
        (filledLines (width - margin.length) words).map (margin ++ ·)))) words

end KeyMenu.Sh
