import KeyMenu.Sh.Tool.File
import KeyMenu.Sh.Tool.Line

/-!
# Comparing files

Programs that tell where files differ, byte by byte (`compareBytes`) or line by line
(`differences`), and one that changes a file as a list of differences says (`applyChanges`). Lines
are kept where a longest common part can be kept (`changesBetween`).
-/

namespace KeyMenu.Sh

/-- A change: so many lines of one text from a place on give way to others. -/
structure Hunk where
  oldStart : Nat
  old : List Text
  newStart : Nat
  new : List Text
  deriving DecidableEq

/-- For each rest of two lists how much they can have in common, in rows of the first one. -/
def commonTable {α : Type} (same : α → α → Bool) (left right : List α) : List (List Nat) :=
  left.foldr (fun a rows =>
    let below := rows.headD (List.replicate (right.length + 1) 0)
    let row := ((right.zip (below.zip below.tail))).foldr (fun (b, down, diagonal) row =>
      (if same a b then diagonal + 1 else max down (row.headD 0)) :: row) [0]
    row :: rows) [List.replicate (right.length + 1) 0]

/-- Whether lines are kept, taken away or put in. -/
inductive LineChange
  | kept (a b : Text)
  | taken (a : Text)
  | added (b : Text)

/-- Goes through two lists along a table of what they have in common. -/
def lineChanges (same : Text → Text → Bool) : Nat → List Text → List Text → List (List Nat) →
    List LineChange
  | 0, _, _, _ => []
  | _ + 1, [], right, _ => right.map .added
  | _ + 1, left, [], _ => left.map .taken
  | fuel + 1, a :: left, b :: right, rows =>
      let here := rows.headD []
      let below := rows.tail.headD []
      let shift (rows : List (List Nat)) : List (List Nat) := rows.map List.tail
      if same a b then .kept a b :: lineChanges same fuel left right (shift rows.tail)
      else if (here.tail.headD 0) ≤ below.headD 0 then
        .taken a :: lineChanges same fuel left (b :: right) rows.tail
      else .added b :: lineChanges same fuel (a :: left) right (shift rows)

/-- Changes next to each other are one. -/
def hunksOf : Nat → Nat → List LineChange → List Hunk
  | _, _, [] => []
  | i, j, .kept _ _ :: rest => hunksOf (i + 1) (j + 1) rest
  | i, j, .taken a :: rest =>
      match rest.head?, hunksOf (i + 1) j rest with
      | some (.kept _ _), hunks => ⟨i, [a], j, []⟩ :: hunks
      | _, hunk :: hunks => ⟨i, a :: hunk.old, j, hunk.new⟩ :: hunks
      | _, [] => [⟨i, [a], j, []⟩]
  | i, j, .added b :: rest =>
      match rest.head?, hunksOf i (j + 1) rest with
      | some (.kept _ _), hunks => ⟨i, [], j, [b]⟩ :: hunks
      | _, hunk :: hunks => ⟨i, hunk.old, j, b :: hunk.new⟩ :: hunks
      | _, [] => [⟨i, [], j, [b]⟩]

/-- How many lines two texts begin with in common. -/
def sharedStart (same : Text → Text → Bool) : List Text → List Text → Nat
  | a :: left, b :: right => if same a b then sharedStart same left right + 1 else 0
  | _, _ => 0

/-- The changes that make one text from another one. -/
def changesBetween (same : Text → Text → Bool) (left right : List Text) : List Hunk :=
  let before := sharedStart same left right
  let left' := left.drop before
  let right' := right.drop before
  let after := sharedStart same left'.reverse right'.reverse
  let inner := left'.take (left'.length - after)
  let other := right'.take (right'.length - after)
  hunksOf before before
    (lineChanges same (inner.length + other.length + 1) inner other (commonTable same inner other))

/-! ### Showing changes -/

/-- A line behind a sign; a line without an end is told apart. -/
def signedLine (sign : Text) (line : Text) : Text :=
  if line.getLast? = some '\n' then sign ++ line
  else sign ++ line ++ "\n\\ No newline at end of file\n".toList

/-- The numbers of lines from a place on. -/
def lineRange (start count : Nat) : Text :=
  if count ≤ 1 then Text.ofNat (start + count)
  else Text.ofNat (start + 1) ++ ',' :: Text.ofNat (start + count)

/-- A change with its letter and its lines. -/
def Hunk.plain (h : Hunk) : Text :=
  let letter := if h.old.isEmpty then 'a' else if h.new.isEmpty then 'd' else 'c'
  lineRange h.oldStart h.old.length ++ letter :: lineRange h.newStart h.new.length ++ ['\n'] ++
    h.old.flatMap (signedLine "< ".toList) ++
    (if letter = 'c' then "---\n".toList else []) ++ h.new.flatMap (signedLine "> ".toList)

/-- A change as commands for an editor. -/
def Hunk.commands (h : Hunk) : Text :=
  let letter := if h.old.isEmpty then 'a' else if h.new.isEmpty then 'd' else 'c'
  lineRange h.oldStart h.old.length ++ letter :: ['\n'] ++
    if h.new.isEmpty then [] else h.new.flatten ++ ".\n".toList

/-- Changes that are near each other. -/
def nearHunks (context : Nat) : List Hunk → List (List Hunk)
  | [] => []
  | h :: hunks =>
      match nearHunks context hunks, hunks with
      | group :: groups, next :: _ =>
          if next.oldStart ≤ h.oldStart + h.old.length + 2 * context then (h :: group) :: groups
          else [h] :: group :: groups
      | groups, _ => [h] :: groups

/-- The range of a group of changes. -/
def unitedRange (start count : Nat) : Text :=
  if count = 1 then Text.ofNat (start + 1)
  else Text.ofNat (if count = 0 then start else start + 1) ++ ',' :: Text.ofNat count

/-- A group of changes with the lines around them. -/
def unitedGroup (context : Nat) (left : List Text) (hunks : List Hunk) : Text :=
  match hunks.head?, hunks.getLast? with
  | some first, some last =>
      let start := first.oldStart - context
      let stop := min left.length (last.oldStart + last.old.length + context)
      let newStart := first.newStart - (first.oldStart - start)
      let added := (hunks.map fun h => h.new.length).foldl (· + ·) 0
      let taken := (hunks.map fun h => h.old.length).foldl (· + ·) 0
      let kept (a b : Nat) : Text :=
        ((left.take b).drop a).flatMap (signedLine [' '])
      let (body, place) := hunks.foldl (fun (body, place) h =>
        (body ++ kept place h.oldStart ++ h.old.flatMap (signedLine ['-']) ++
          h.new.flatMap (signedLine ['+']), h.oldStart + h.old.length)) ([], start)
      "@@ -".toList ++ unitedRange start (stop - start) ++ " +".toList ++
        unitedRange newStart (stop - start + added - taken) ++ " @@\n".toList ++ body ++
        kept place stop
  | _, _ => []

/-- A group of changes with the lines around them, both texts one after the other. -/
def separateGroup (context : Nat) (left right : List Text) (hunks : List Hunk) : Text :=
  match hunks.head?, hunks.getLast? with
  | some first, some last =>
      let start := first.oldStart - context
      let stop := min left.length (last.oldStart + last.old.length + context)
      let newStart := first.newStart - (first.oldStart - start)
      let newStop := min right.length (last.newStart + last.new.length + context)
      let range (a b : Nat) : Text := if b ≤ a + 1 then Text.ofNat b
        else Text.ofNat (a + 1) ++ ',' :: Text.ofNat b
      let side (lines : List Text) (start stop : Nat) (sign : Char)
          (part : Hunk → Nat × Nat) : Text :=
        let (body, place) := hunks.foldl (fun (body, place) h =>
          let (at', count) := part h
          let mark := if h.old.isEmpty || h.new.isEmpty then [sign, ' '] else ['!', ' ']
          (body ++ ((lines.take at').drop place).flatMap (signedLine [' ', ' ']) ++
            ((lines.drop at').take count).flatMap (signedLine mark), at' + count))
          (([], start) : Text × Nat)
        body ++ ((lines.take stop).drop place).flatMap (signedLine [' ', ' '])
      let oldSide := if hunks.all (·.old.isEmpty) then [] else
        side left start stop '-' fun h => (h.oldStart, h.old.length)
      let newSide := if hunks.all (·.new.isEmpty) then [] else
        side right newStart newStop '+' fun h => (h.newStart, h.new.length)
      "***************\n*** ".toList ++ range start stop ++ " ****\n".toList ++ oldSide ++
        "--- ".toList ++ range newStart newStop ++ " ----\n".toList ++ newSide
  | _, _ => []

/-! ### The program -/

/-- A line as it is compared. -/
def comparedLine (g : Given) (line : Text) : Text :=
  let isSpace (c : Char) : Bool := c == ' ' || ('\t' ≤ c && c ≤ '\x0d')
  let line := if g.has 'w' then line.filter (!isSpace ·) ++ (if line.contains '\n'
      then ['\n'] else [])
    else if g.has 'b' then
      let squeezed := (line.splitBy fun a b => isSpace a == isSpace b).map fun group =>
        if group.all isSpace then [' '] else group
      let t := squeezed.flatten
      if t.getLast? = some ' ' then t.dropLast else t
    else if g.hasLong "strip-trailing-cr" then
      if "\r\n".toList.isSuffixOf line then line.take (line.length - 2) ++ ['\n'] else line
    else line
  if g.has 'i' then line.map small else line

/-- The options that lines are compared by, in the order in which they have been given. -/
def shownOptions (g : Given) : Text :=
  g.options.flatMap fun (key, value) => match key with
    | [c] => " -".toList ++ [c] ++ (if value.isEmpty then [] else ' ' :: value)
    | name => " --".toList ++ name ++ (if value.isEmpty then [] else '=' :: value)

/-- The differences of two texts with their names, and whether there are any. -/
def textDifferences (g : Given) (s : State) (a b : Text × Text × Int) : Text × Bool :=
  let (nameA, left, timeA) := a
  let (nameB, right, timeB) := b
  let same (a b : Text) : Bool := a == b || comparedLine g a == comparedLine g b
  let hunks :=
    if left = right then []
    else
      let hunks := changesBetween same (wholeLines '\n' left) (wholeLines '\n' right)
      if g.has 'B' then hunks.filter fun h => !(h.old ++ h.new).all (· == ['\n']) else hunks
  let labels := (g.options.filter (·.1 == ['L'])).map Prod.snd
  let stamp (name : Text) (time : Int) (n : Nat) (format : String) : Text :=
    (labels[n]?).getD (name ++ '\t' ::
      (Moment.ofSeconds s.zone (time / World.second)
        (Int.emod time World.second).toNat).written format.toList) ++ ['\n']
  let context := ((g.value? 'U').or (g.value? 'C')).elim 3 digitsValue
  if hunks.isEmpty then ([], false)
  else if g.has 'q' then
    ("Files ".toList ++ nameA ++ " and ".toList ++ nameB ++ " differ\n".toList, true)
  else if left.contains '\x00' || right.contains '\x00' then
    ("Binary files ".toList ++ nameA ++ " and ".toList ++ nameB ++ " differ\n".toList, true)
  else if g.has 'u' || g.has 'U' then
    let format := "%Y-%m-%d %H:%M:%S.%N %z"
    ("--- ".toList ++ stamp nameA timeA 0 format ++ "+++ ".toList ++ stamp nameB timeB 1 format ++
      (nearHunks context hunks).flatMap (unitedGroup context (wholeLines '\n' left)), true)
  else if g.has 'c' || g.has 'C' then
    let format := "%a %b %e %H:%M:%S %Y"
    ("*** ".toList ++ stamp nameA timeA 0 format ++ "--- ".toList ++ stamp nameB timeB 1 format ++
      (nearHunks context hunks).flatMap
        (separateGroup context (wholeLines '\n' left) (wholeLines '\n' right)), true)
  else if g.has 'e' then ((hunks.reverse).flatMap Hunk.commands, true)
  else (hunks.flatMap Hunk.plain, true)

/-- Compares what two paths lead to. The status is the worst one of all that has been compared. -/
def compareTrees (g : Given) : Nat → Bool → Text → Text → State → State
  | 0, _, _, _, s => s
  | fuel + 1, isInside, a, b, s =>
      let worsen (n : Int) (before after : State) : State := after.withStatus (max before.status n)
      let trouble (path : Text) (fault : Fault) (s : State) : State :=
        worsen 2 s (s.complain 2 "diff".toList (path ++ ": ".toList ++ fault.message))
      let fills := g.has 'N'
      let found (path : Text) : Except Fault (Option Nat) :=
        if path = ['-'] || ((streamAt? path).isSome && s.has path) then .ok none
        else
          match s.inodeAt true path with
          | .ok n => .ok (some n)
          | .error .notFound => if fills then .ok none else .error .notFound
          | .error fault => .error fault
      match found a, found b with
      | .error fault, .error other => trouble b other (trouble a fault s)
      | .error fault, _ => trouble a fault s
      | _, .error fault => trouble b fault s
      | .ok m, .ok n =>
          let isDirectory (n : Option Nat) : Bool := n.any s.world.store.isDirectory
          match isDirectory m, isDirectory n with
          | true, true =>
              let names (n : Option Nat) : List Text := n.elim [] s.world.store.names
              let excluded := (g.values 'x').map fun t =>
                  Pattern.ofSigns s.patternRules (Signs.plain t)
              let all := (Text.sorted (names m ++ names n).eraseDups).filter fun name =>
                !excluded.any (·.fits false name)
              all.foldl (fun s name =>
                let isLeft := (names m).contains name
                let isRight := (names n).contains name
                let only (d : Text) : State := worsen 1 s
                  (s.put ("Only in ".toList ++ d ++ ": ".toList ++ name ++ ['\n']))
                if isLeft && isRight then
                  let inner := s.hasDirectory (under a name) && s.hasDirectory (under b name)
                  if inner && !g.has 'r' then
                    s.put ("Common subdirectories: ".toList ++ under a name ++ " and ".toList ++
                      under b name ++ ['\n'])
                  else compareTrees g fuel true (under a name) (under b name) s
                else if fills then compareTrees g fuel true (under a name) (under b name) s
                else only (if isLeft then a else b)) s
          | true, false =>
              if isInside then
                worsen 1 s (s.put ("File ".toList ++ a ++
                  " is a directory while file ".toList ++ b ++
                  " is a regular file\n".toList))
              else compareTrees g fuel false (under a (baseName b)) b s
          | false, true =>
              if isInside then
                worsen 1 s (s.put ("File ".toList ++ a ++
                  " is a regular file while file ".toList ++ b ++
                  " is a directory\n".toList))
              else compareTrees g fuel false a (under b (baseName a)) s
          | false, false =>
              let read (path : Text) (s : State) : State × Text :=
                if path = ['-'] then s.readAll
                else ((s.textAt path).toOption).getD (s, [])
              let time (n : Option Nat) : Int := n.elim 0 fun n => (s.world.store.inode n).modified
              let (s, left) := read a s
              let (s, right) := if a = ['-'] && b = ['-'] then (s, left) else read b s
              let (t, differs) := textDifferences g s (a, left, time m) (b, right, time n)
              let head := if isInside && differs && !g.has 'q' && !t.isEmpty &&
                  !"Binary files".toList.isPrefixOf t then
                  "diff".toList ++ shownOptions g ++ ' ' :: a ++ ' ' :: b ++ ['\n']
                else []
              if differs then worsen 1 s (s.put (head ++ t))
              else if g.has 's' then
                s.put ("Files ".toList ++ a ++ " and ".toList ++ b ++ " are identical\n".toList)
              else s

/-- Shows the differences of files, line by line. -/
def differences : Tool :=
    optioned "diff" "abBcC:deEF:iI:lL:nNpqrsS:tTuU:vwW:x:X:yZ0123456789" ["text=a",
    "ignore-space-change=b", "ignore-blank-lines=B", "context?", "unified?", "brief=q", "ed=e",
    "ignore-case=i", "label=L", "new-file=N", "recursive=r", "report-identical-files=s",
    "ignore-all-space=w", "exclude=x", "side-by-side=y", "width=W", "minimal=d", "normal",
    "strip-trailing-cr", "color?", "suppress-common-lines", "ignore-trailing-space=Z",
    "no-dereference", "speed-large-files", "expand-tabs=t", "initial-tab=T", "from-file:",
    "to-file:", "ignore-matching-lines=I", "show-c-function=p", "left-column"] 2 fun g s =>
  let options : List (Text × Text) := g.options.map fun (key, value) =>
    if key = "unified".toList then (if value.isEmpty then (['u'], []) else (['U'], value))
    else if key = "context".toList then (if value.isEmpty then (['c'], []) else (['C'], value))
    else (key, value)
  let g : Given := ⟨options, g.operands⟩
  match g.operands with
  | [a, b] => compareTrees g 100 false a b s
  | [] => s.missOperand "diff" 2
  | [t] => s.complain 2 "diff".toList ("missing operand after ".toList ++ inQuotes t)
  | _ => s.complain 2 "diff".toList "extra operand".toList

/-! ### Bytes -/

/-- The first place where two texts differ, counted from one on, with the line there and the two
bytes. -/
def firstDifference : Nat → Nat → Text → Text → Option (Nat × Nat × Char × Char)
  | place, line, a :: left, b :: right =>
      if a = b then firstDifference (place + 1) (if a = '\n' then line + 1 else line) left right
      else some (place, line, a, b)
  | _, _, _, _ => none

/-- All places where two texts differ. -/
def allDifferences (left right : Text) : List (Nat × Char × Char) :=
  ((left.zip right).zipIdx).filterMap fun ((a, b), n) => if a = b then none else some (n + 1, a, b)

/-- Compares files byte by byte. -/
def compareBytes : Tool := optioned "cmp" "bi:ln:sv" ["print-bytes=b",
    "ignore-initial=i", "verbose=l",
    "bytes=n", "quiet=s", "silent=s"] 2 fun g s =>
  let who := "cmp".toList
  match g.operands with
  | [] => s.missOperand "cmp" 2
  | a :: rest =>
      let b := rest.headD ['-']
      let skips := ((g.value? 'i').map (splitAt ':')).getD []
      let skip (n : Nat) (t : Text) : Nat := ((t :: []).head?.bind sizeOf?).getD n
      let skipA := max (skip 0 (skips.headD [])) (((rest[1]?).bind sizeOf?).getD 0)
      let skipB := max (skip 0 ((skips[1]?).getD (skips.headD [])))
          (((rest[2]?).bind sizeOf?).getD 0)
      let (s, texts) := s.gather "cmp" 2 [a, b]
      match texts with
      | [(_, left), (_, right)] =>
          let cut (t : Text) : Text := match (g.value? 'n').bind sizeOf? with
            | some n => t.take n
            | none => t
          let left := cut (left.drop skipA)
          let right := cut (right.drop skipB)
          let shorter := if left.length < right.length then a else b
          let short := if left.length < right.length then left else right
          let ending (s : State) : State :=
            if left.length = right.length then s
            else if g.has 's' then s.withStatus 1
            else
              let n := short.length
              let what := if n = 0 then shorter ++ " which is empty".toList
                else shorter ++ " after byte ".toList ++ Text.ofNat n ++ ", line ".toList ++
                  Text.ofNat (short.count '\n' + 1)
              s.complain 1 who ("EOF on ".toList ++ what)
          let octal (c : Char) : Text := rightIn 3 (inBase 8 c.toNat)
          if g.has 'l' then
            let all := allDifferences left right
            let s := s.put (all.flatMap fun (n, x, y) =>
              Text.ofNat n ++ ' ' :: octal x ++ ' ' :: octal y ++ ['\n'])
            ending (if all.isEmpty then s else s.withStatus 1)
          else
            match firstDifference 1 1 left right with
            | none => ending s
            | some (place, line, x, y) =>
                let bytes := if g.has 'b' then " is ".toList ++ octal x ++ ' ' :: visible true x ++
                  ' ' :: octal y ++ ' ' :: visible true y else []
                let s := if g.has 's' then s
                  else s.put (a ++ ' ' :: b ++ " differ: ".toList ++
                    (if g.has 'b' then "byte ".toList else "char ".toList) ++ Text.ofNat place ++
                    ", line ".toList ++ Text.ofNat line ++ bytes ++ ['\n'])
                s.withStatus 1
      | _ => s

/-! ### Applying changes -/

/-- Changes of one file: its names, and for each change the place, the old lines and the new
ones. -/
structure Patching where
  oldName : Text
  newName : Text
  hunks : List Hunk

/-- The numbers at the beginning of a change: where it begins, and how many lines it has. -/
def rangeRead (t : Text) : Option (Nat × Nat × Text) :=
  (digitsOf 10 10 t).map fun (start, rest) =>
    match rest with
    | ',' :: more => match digitsOf 10 10 more with
        | some (n, rest) => (start, n, rest)
        | none => (start, 1, rest)
    | rest => (start, 1, rest)

/-- The lines of a change with lines around it, old and new, and what follows. -/
def unitedLines : Nat → Nat → List Text → List Text × List Text × List Text
  | old, new, line :: lines =>
      let whole := match lines with
        | ('\\' :: _) :: _ => line.tail.dropLast
        | _ => line.tail
      match line.head? with
      | some '\\' => unitedLines old new lines
      | some '-' =>
          if old = 0 then ([], [], line :: lines)
          else
            let (a, b, rest) := unitedLines (old - 1) new lines
            (whole :: a, b, rest)
      | some '+' =>
          if new = 0 then ([], [], line :: lines)
          else
            let (a, b, rest) := unitedLines old (new - 1) lines
            (a, whole :: b, rest)
      | some ' ' =>
          if old = 0 || new = 0 then ([], [], line :: lines)
          else
            let (a, b, rest) := unitedLines (old - 1) (new - 1) lines
            (whole :: a, whole :: b, rest)
      | some '\n' =>
          if old = 0 || new = 0 then ([], [], line :: lines)
          else
            let (a, b, rest) := unitedLines (old - 1) (new - 1) lines
            (line :: a, line :: b, rest)
      | _ => ([], [], line :: lines)
  | _, _, [] => ([], [], [])

/-- The lines behind a sign. -/
def linesBehind (sign : Char) (lines : List Text) : List Text × List Text :=
  let mine := lines.takeWhile fun line => line.head? == some sign
  let rest := lines.drop mine.length
  match rest with
  | ('\\' :: _) :: more =>
      ((mine.map (·.drop 2)).dropLast ++ (mine.getLast?.toList.map fun line =>
        (line.drop 2).dropLast),
        more)
  | rest => (mine.map (·.drop 2), rest)

/-- Reads changes. -/
def patchings : Nat → Patching → List Text → List Patching
  | 0, p, _ => [p]
  | _ + 1, p, [] => [p]
  | fuel + 1, p, line :: lines =>
      let nameIn (line : Text) : Text := ((line.drop 4).takeWhile fun c => c != '\t' && c != '\n')
      let next := lines.headD []
      if "--- ".toList.isPrefixOf line && "+++ ".toList.isPrefixOf next then
        let new : Patching := ⟨nameIn line, nameIn next, []⟩
        (if p.hunks.isEmpty then [] else [p]) ++ patchings fuel new lines.tail
      else if "@@ -".toList.isPrefixOf line then
        match rangeRead (line.drop 4) with
        | some (start, old, rest) =>
            match rangeRead (rest.drop 2) with
            | some (newStart, new, _) =>
                let (a, b, more) := unitedLines old new lines
                let place := if old = 0 then start else start - 1
                patchings fuel { p with hunks := p.hunks ++ [⟨place, a, newStart - 1, b⟩] } more
            | none => patchings fuel p lines
        | none => patchings fuel p lines
      else
        match rangeRead line with
        | some (start, _, letter :: _) =>
            if letter = 'a' then
              let (b, more) := linesBehind '>' lines
              patchings fuel { p with hunks := p.hunks ++ [⟨start, [], 0, b⟩] } more
            else if letter = 'd' then
              let (a, more) := linesBehind '<' lines
              patchings fuel { p with hunks := p.hunks ++ [⟨start - 1, a, 0, []⟩] } more
            else if letter = 'c' then
              let (a, more) := linesBehind '<' lines
              let (b, more) := linesBehind '>' more.tail
              patchings fuel { p with hunks := p.hunks ++ [⟨start - 1, a, 0, b⟩] } more
            else patchings fuel p lines
        | _ => patchings fuel p lines

/-- Puts a change into lines at its place, or near it; `shift` tells how far lines have moved so
far. -/
def applied? (h : Hunk) (shift : Int) (lines : List Text) : Option (List Text × Int) :=
  let fitsAt (n : Nat) : Bool := (lines.drop n).take h.old.length == h.old && n ≤ lines.length
  let wanted := ((h.oldStart : Int) + shift).toNat
  let offsets := (List.range (lines.length + 1)).flatMap fun n => [wanted + n, wanted - n]
  (offsets.find? fitsAt).map fun n =>
    (lines.take n ++ h.new ++ lines.drop (n + h.old.length),
      shift + h.new.length - h.old.length + ((n : Int) - wanted))

/-- Changes files as a list of changes says. -/
def applyChanges : Tool :=
    optioned "patch" "bB:cd:D:eEfF:g:i:lnNo:p:r:RstT:uvV:x:Y:z:Z:" ["strip=p",
    "input=i", "reverse=R", "forward=N", "silent=s", "quiet=s", "backup=b",
      "directory=d", "dry-run",
    "output=o", "force=f", "batch=t", "fuzz=F", "unified=u", "normal=n", "remove-empty-files=E",
    "reject-file=r", "verbose", "binary", "posix", "no-backup-if-mismatch", "ignore-whitespace=l"] 2
    fun g s =>
  let who := "patch".toList
  let source := (g.value? 'i').or (g.operands[1]?)
  let read : Except Fault (State × Text) := match source with
    | some path => s.textAt path
    | none => .ok s.readAll
  match read with
  | .error fault => s.complain 2 who ((source.getD []) ++ ": ".toList ++ fault.message)
  | .ok (s, t) =>
      let lines := wholeLines '\n' t
      let all := (patchings (lines.length + 1) ⟨[], [], []⟩ lines).filter (!·.hunks.isEmpty)
      if lines.isEmpty then s
      else if all.isEmpty then
        s.complain 2 who "**** Only garbage was found in the patch input.".toList
      else
        all.foldl (fun s p =>
          let strip (path : Text) : Text := match (g.value? 'p').map digitsValue with
            | some n => Text.joinWith ['/'] ((splitAt '/' path).drop n)
            | none => baseName path
          let names := [p.oldName, p.newName].map strip
          let base (path : Text) : Text := match g.value? 'd' with
            | some d => under d path
            | none => path
          let named := (g.operands.head?).orElse fun _ =>
            (names.find? fun n => !n.isEmpty && s.has (base n)).orElse fun _ =>
              (names.find? fun n => !n.isEmpty && n ≠ "/dev/null".toList && n ≠ "null".toList)
          match named with
          | none => s.complain 1 who "can\x27t find file to patch".toList
          | some name =>
              let path := base name
              let (s, before) := ((s.textAt path).toOption).getD (s, [])
              let turn (h : Hunk) : Hunk := if g.has 'R'
                  then ⟨h.newStart, h.new, h.oldStart, h.old⟩ else h
              let hunks := p.hunks.map turn
              let (after, _, rejected) := hunks.foldl (fun (lines, shift, rejected) h =>
                match applied? h shift lines with
                | some (lines, shift) => (lines, shift, rejected)
                | none => (lines, shift, rejected + 1)) (wholeLines '\n' before, (0 : Int), 0)
              let s := if g.has 's' then s else s.put ("patching file ".toList ++ name ++ ['\n'])
              let isNew := !s.has path && hunks.any fun h => !h.old.isEmpty
              if isNew then s.complain 2 who "**** Can\x27t reopen file".toList
              else
                let target := (g.value? 'o').getD path
                let removes := after.isEmpty && p.newName = "/dev/null".toList
                let s := if g.hasLong "dry-run" then s
                  else if removes then unlink [path] s
                  else if rejected = hunks.length then s
                  else s.save "patch" target after.flatten
                if rejected = 0 then s
                else
                  let s := if g.hasLong "dry-run" then s
                    else s.save "patch" (path ++ ".rej".toList)
                      (hunks.flatMap fun h => h.plain)
                  s.withStatus 1) s

/-- What is common is kept. -/
example : changesBetween (· == ·) ["a".toList, "b".toList, "c".toList] ["a".toList, "c".toList] =
    [⟨1, ["b".toList], 1, []⟩] := by decide +kernel

end KeyMenu.Sh
