import KeyMenu.Sh.Regular.Reader
import KeyMenu.Sh.Tool.Line

/-!
# Searching for lines

The program that shows the lines in which something is found. What is looked for are expressions
(`Wanted`), and how it is shown is asked for by options (`Display`).
-/

namespace KeyMenu.Sh

/-- What is looked for: expressions, of which any may fit, letters as they are read, and lines in
which nothing is found instead. -/
structure Wanted where
  expressions : List Regular
  isLongest : Bool
  isWide : Bool
  isTurned : Bool

namespace Wanted

/-- The signs of words. -/
def wordSigns : Regular := .letter ⟨false, Regular.wordRanges, false⟩

/-- An expression that has to take in a whole line, or whole words. -/
def framed (wholeLine wholeWords : Bool) (r : Regular) : Regular :=
  if wholeLine then
    (Regular.position .textStart).followedBy (r.followedBy (.position .textEnd))
  else if wholeWords then
    (Regular.look false false wordSigns).followedBy
      (r.followedBy (.look true false wordSigns))
  else r

/-- Something is found in a line, or nothing where that is asked for. -/
def picks (w : Wanted) (line : Text) : Bool :=
  (w.expressions.any (·.occursIn line)) != w.isTurned

/-- What is found first from a place on, and most of it. -/
def find? (w : Wanted) (line : Text) (start : Nat) : Option Found :=
  (w.expressions.filterMap (·.find? w.isLongest line start)).foldl (fun best f =>
    match best with
    | none => some f
    | some b =>
        if f.start < b.start || (f.start = b.start && b.stop < f.stop) then some f else some b) none

/-- All that is found in a line and is not empty. -/
def parts (w : Wanted) (line : Text) : Nat → Nat → List Found
  | 0, _ => []
  | fuel + 1, start =>
      match w.find? line start with
      | none => []
      | some f =>
          if f.stop = f.start then
            if f.stop < line.length then w.parts line fuel (f.stop + 1) else []
          else f :: w.parts line fuel f.stop

end Wanted

/-- A line with its number and the place of its first byte. -/
structure NumberedLine where
  number : Nat
  place : Nat
  text : Text

/-- The lines of a text with their numbers. -/
def numberedLines (limit : Char) (t : Text) : List NumberedLine :=
  ((piecesEndedBy limit t).foldl (fun (lines, number, place) line =>
    (⟨number, place, line⟩ :: lines, number + 1, place + line.length + 1)) ([], 1, 0)).1.reverse

/-- How lines are shown: with the name of the file, their numbers and places, only what has been
found, and with lines around them. -/
structure Display where
  showsName : Bool
  showsNumber : Bool
  showsPlace : Bool
  onlyParts : Bool
  before : Nat
  after : Nat
  limit : Char
  nameEnd : Option Char

namespace Display

/-- What stands in front of a line. -/
def head (d : Display) (name : Text) (sign : Char) (number place : Nat) : Text :=
  (if d.showsName then name ++ [(d.nameEnd).getD sign] else []) ++
    (if d.showsNumber then Text.ofNat number ++ [sign] else []) ++
    (if d.showsPlace then Text.ofNat place ++ [sign] else [])

/-- A line that has been found. -/
def line (d : Display) (w : Wanted) (name : Text) (l : NumberedLine) : Text :=
  if d.onlyParts then
    if w.isTurned then []
    else
      let wide := widened w.isWide l.text
      (w.parts wide (wide.length + 1) 0).flatMap fun f =>
        d.head name ':' l.number (l.place + (narrowed w.isWide (wide.take f.start)).length) ++
          narrowed w.isWide (f.text wide) ++ [d.limit]
  else d.head name ':' l.number l.place ++ l.text ++ [d.limit]

/-- Lines with those around them; groups that do not touch are kept apart. `held` are the lines
before that have not been shown, the last one first, and `left` tells how many are still to be shown
after one that has been found. -/
def shown (d : Display) (w : Wanted) (name : Text) :
    List NumberedLine → Nat → Bool → List (NumberedLine × Bool) → Text
  | _, _, _, [] => []
  | held, left, hasGap, (l, isFound) :: lines =>
      let around (l : NumberedLine) : Text :=
        if d.onlyParts then [] else d.head name '-' l.number l.place ++ l.text ++ [d.limit]
      if isFound then
        let start := held.take d.before
        let isApart := hasGap && d.before < held.length
        let isApart := isApart || (hasGap && start.isEmpty && !held.isEmpty)
        (if isApart && 0 < d.before + d.after then "--\n".toList else []) ++
          start.reverse.flatMap around ++ d.line w name l ++ shown d w name [] d.after true lines
      else if 0 < left then around l ++ shown d w name [] (left - 1) hasGap lines
      else shown d w name (l :: held) 0 hasGap lines

end Display

/-- The names of all files under one, in their order, as they are to be shown. -/
def filesUnder (store : Store) (keeps : Bool → Text → Bool) : Nat → Text → Nat → List (Text × Nat)
  | 0, _, _ => []
  | fuel + 1, path, n =>
      if store.isDirectory n then
        (store.names n).flatMap fun name =>
          match Table.get? (store.entries n) name with
          | none => []
          | some m =>
              let inner := if path.isEmpty then name else under path name
              match store.content m with
              | .link _ => []
              | .directory _ =>
                  if keeps true name then filesUnder store keeps fuel inner m else []
              | .plain _ => if keeps false name then [(inner, m)] else []
              | _ => []
      else [(path, n)]

/-- The options of the program that searches. -/
def searchOptions : Options :=
  ⟨"0123456789A:B:C:d:D:e:Ef:FGhHiIlLm:nNoPqrRsTuUvVwxyZzabc",
    ["after-context=A", "before-context=B",
    "context=C", "regexp=e", "extended-regexp=E", "file=f", "fixed-strings=F", "basic-regexp=G",
    "no-filename=h", "with-filename=H", "ignore-case=i", "no-ignore-case", "files-with-matches=l",
    "files-without-match=L", "max-count=m", "line-number=n", "only-matching=o", "perl-regexp=P",
    "quiet=q", "silent=q", "recursive=r", "dereference-recursive=R", "no-messages=s",
    "initial-tab=T", "invert-match=v", "word-regexp=w", "line-regexp=x", "null=Z", "null-data=z",
    "text=a", "byte-offset=b", "count=c", "color?", "colour?", "include:", "exclude:",
    "exclude-dir:", "exclude-from:", "label:", "line-buffered", "binary-files:", "binary=U",
    "unix-byte-offsets=u", "directories=d", "devices=D", "group-separator:",
    "no-group-separator"], false⟩

/-- The blocks in which files are read. -/
def searchBlock : Nat := 98304

/-- The blocks in which queues are read. -/
def queueBlock : Nat := 65536

/-- What one file has shown: whether lines have been found, what is to be written, whether it is no
text, and how many bytes have been read. -/
structure SearchResult where
  isFound : Bool
  output : Text
  isBinary : Bool
  count : Nat

/-- Searches one text. -/
def searchText (g : Given) (w : Wanted) (d : Display) (name t : Text) : SearchResult :=
  let most := ((g.value? 'm').bind (numberIn? 10)).filter (0 ≤ ·) |>.map Int.toNat
  let stopsSoon := g.has 'q' || g.has 'l' || g.has 'L'
  let most := if stopsSoon then some (min 1 (most.getD 1)) else most
  let lines := numberedLines d.limit t
  let fits (l : NumberedLine) : Bool := w.picks (widened w.isWide l.text)
  let marked := match most with
    | none => lines.map fun l => (l, fits l)
    | some most => ((lines.foldl (fun (marked, n) l =>
        if n = most then ((l, false) :: marked, n)
        else if fits l then ((l, true) :: marked, n + 1)
        else ((l, false) :: marked, n)) ([], 0)).1).reverse
  let found := marked.filter Prod.snd
  let read := match most, found.getLast? with
    | some most, some (l, _) =>
        if found.length = most then l.place + l.text.length + 1 else t.length
    | _, _ => t.length
  let read := if most = some 0 then 0 else read
  let isFound := !found.isEmpty
  let ending : Text := match d.nameEnd with
    | some c => [c]
    | none => ['\n']
  let isBinary := !g.has 'a' && !g.has 'z' && t.contains '\x00' &&
    g.longValue? "binary-files" ≠ some "text".toList
  let output : Text :=
    if g.has 'q' then []
    else if g.has 'l' then (if isFound then name ++ ending else [])
    else if g.has 'L' then (if isFound then [] else name ++ ending)
    else if g.has 'c' then
      (if d.showsName then name ++ [(d.nameEnd).getD ':'] else []) ++
        Text.ofNat found.length ++ ['\n']
    else if isBinary then
      []
    else
      let kept := match most with
        | none => marked
        | some _ =>
            let last := (found.getLast?.map fun (l, _) => l.number).getD 0
            marked.filter fun (l, _) => l.number ≤ last + d.after
      d.shown w name [] 0 false kept
  ⟨isFound && !(isBinary && g.has 'I'), output, isBinary && isFound, read⟩

/-- The expressions that are looked for. -/
def wantedBy? (g : Given) (form : Option Char) (patterns : List Text) (isWide : Bool) :
    Option Wanted :=
  let form := (g.last? "EFGP").or form
  let folds := g.has 'i' || g.has 'y'
  let style := match form with
    | some 'E' => Style.extended
    | some 'P' => .rich
    | _ => .basic
  let read (t : Text) : Option Regular :=
    let t := widened isWide t
    (if form = some 'F' then some (Regular.ofText folds t)
      else Regular.ofText? { Manner.ofStyle style with
        folds := folds
        closesAlone := true
        isLenient := true } t).map
        (Wanted.framed (g.has 'x') (g.has 'w'))
  (patterns.mapM read).map fun rs => ⟨rs, style ≠ .rich, isWide, g.has 'v'⟩

/-- Shows the lines in which something is found. -/
def search (who : String) (form : Option Char) (isDeep : Bool) : Tool := fun words s =>
  let fail (message : Text) (s : State) : State := s.complain 2 who.toList message
  match Given.ofWords searchOptions words with
  | .error message => fail message s
  | .ok g =>
    if g.hasLong "help" then s.write "Usage: grep [OPTION]... PATTERNS [FILE]...\n".toList
    else if g.has 'V' || g.hasLong "version" then s.write "grep (GNU grep) 3.11\n".toList
    else
      let lists := (g.options.filter fun (key, _) => key == ['e'] || key == ['f'])
      let (s, given) := lists.foldl (fun (s, given) (key, value) =>
        if key = ['e'] then (s, given ++ (splitAt '\n' value))
        else if value = ['-'] then
          let (s, t) := s.readAll
          (s, given ++ textLines t)
        else
          match s.textAt value with
          | .ok (s, t) => (s, given ++ textLines t)
          | .error fault => (fail (value ++ ": ".toList ++ fault.message) s, given))
        (s.withStatus 0, [])
      let (patterns, files) := if lists.isEmpty then
          (g.operands.head?.map (splitAt '\n'), g.operands.tail)
        else (some given, g.operands)
      let badNumber := "ABCm".toList.any fun c => (g.value? c).any fun t =>
        (numberIn? 10 t).isNone || (c ≠ 'm' && t.head? = some '-')
      match patterns with
      | none => fail "usage: grep [OPTION]... PATTERNS [FILE]...".toList s
      | some patterns =>
        if s.status ≠ 0 then s
        else if badNumber then fail "invalid context length argument".toList s
        else
          match wantedBy? g form patterns s.isWide with
          | none => fail "invalid regular expression".toList s
          | some w =>
            let goesDeep := isDeep || g.has 'r' || g.has 'R' || g.value? 'd' = some "recurse".toList
            let digits := (g.options.filterMap fun (key, _) => match key with
              | [c] => if c.isDigit then some c else none
              | _ => none)
            let around := ((g.value? 'C').map digitsValue).getD
              (if digits.isEmpty then 0 else digitsValue digits)
            let files := if files.isEmpty then (if goesDeep then [[]] else [['-']]) else files
            let isMany := 1 < files.length ||
              (goesDeep && files.any fun f => f.isEmpty || s.hasDirectory f)
            let d : Display := ⟨(g.last? "hH").elim isMany (· == 'H'), g.has 'n', g.has 'b',
              g.has 'o', ((g.value? 'B').map digitsValue).getD around,
              ((g.value? 'A').map digitsValue).getD around,
              if g.has 'z' then '\x00' else '\n', if g.has 'Z' then some '\x00' else none⟩
            let globs (name : String) : List Pattern :=
              (g.options.filter (·.1 == name.toList)).map fun (_, t) =>
                Pattern.ofSigns s.patternRules (Signs.plain t)
            let included := globs "include"
            let keeps (isDirectory : Bool) (name : Text) : Bool :=
              if isDirectory then !(globs "exclude-dir").any (·.fits false name)
              else (included.isEmpty || included.any (·.fits false name)) &&
                !(globs "exclude").any (·.fits false name)
            let quiet := g.has 'q'
            let complain (name : Text) (fault : Fault) (s : State) : State :=
              if g.has 's' then s.withStatus 2
              else fail (name ++ ": ".toList ++ fault.message) s
            let showsLines := !(quiet || g.has 'l' || g.has 'L' || g.has 'c' || g.has 'I')
            let shown (name : Text) (result : SearchResult) (s : State) : State :=
              let s := s.put result.output
              if result.isBinary && showsLines then
                s.mutter (who.toList ++ ": ".toList ++ name ++ ": binary file matches\n".toList)
              else s
            let one (name t : Text) (s : State) (found : Bool) : State × Bool :=
              let result := searchText g w d name t
              (shown name result s, found || result.isFound)
            let (s, found, isBad) := files.foldl (fun (s, found, isBad) file =>
              if s.isStopped || (quiet && found) then (s, found, isBad)
              else if file = ['-'] then
                let name := (g.longValue? "label").getD "(standard input)".toList
                let t := s.ahead 0
                let result := searchText g w d name t
                let stopsSoon := quiet || g.has 'l' || g.has 'L'
                let isQueue := ((s.opening? 0).map fun n => (s.world.opening n).target).any
                  (· matches .queue _)
                let block := if isQueue then queueBlock else searchBlock
                let blocks := (result.count + block - 1) / block * block
                let s := if result.count = t.length then s.readAll.1
                  else if stopsSoon then s.advance 0 (min blocks t.length)
                  else s.consume block result.count
                (shown name result s, found || result.isFound, isBad)
              else
                match s.inodeAt true (if file.isEmpty then ['.'] else file) with
                | .error fault => (complain file fault s, found, true)
                | .ok n =>
                    if s.world.store.isDirectory n then
                      if goesDeep then
                        (filesUnder s.world.store keeps 200 file n).foldl
                          (fun (s, found, isBad) (name, m) =>
                            if quiet && found then (s, found, isBad)
                            else
                              let (s, found) := one name (s.world.fileText m) s found
                              (s, found, isBad)) (s, found, isBad)
                      else if g.value? 'd' = some "skip".toList then (s, found, isBad)
                      else (complain file .isADirectory s, found, true)
                    else if !keeps false (baseName file) && goesDeep then (s, found, isBad)
                    else
                      match s.textAt file with
                      | .error fault => (complain file fault s, found, true)
                      | .ok (s, t) =>
                          let (s, found) := one file t s found
                          (s, found, isBad)) (s, false, false)
            if isBad && !(quiet && found) then s.withStatus 2
            else if s.status ≠ 0 && !isBad then s.withStatus 2
            else s.withStatus (if found then 0 else 1)

/-- Only lines in which something is found are shown. -/
example : (searchText ⟨[], []⟩ ⟨[.ofText false "b".toList], true, false, false⟩
    ⟨false, true, false, false, 0, 0, '\n', none⟩ [] "ab\nc\n".toList).output = "1:ab\n".toList :=
      by
  decide +kernel

end KeyMenu.Sh
