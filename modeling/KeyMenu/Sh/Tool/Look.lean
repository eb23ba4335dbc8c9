import KeyMenu.Sh.Calendar.Reader
import KeyMenu.Sh.Mode
import KeyMenu.Sh.Output
import KeyMenu.Sh.Tool.Basic

/-!
# Programs that look at files

The programs that show files and directories, or tell something about them: what they hold, who they
belong to, when they have changed, and where paths lead.
-/

namespace KeyMenu.Sh

/-! ### Showing texts -/

/-- A byte as it is shown where it has no sign of its own. -/
def visible (showsTabs : Bool) (c : Char) : Text :=
  let n := c.toNat
  let low (n : Nat) : Text :=
    if n < 0x20 then ['^', Char.ofNat (n + 64)] else if n = 0x7f then ['^', '?'] else [Char.ofNat n]
  if c = '\n' || (c = '\t' && !showsTabs) then [c]
  else if n < 0x80 then low n
  else ['M', '-'] ++ low (n - 0x80)

/-- A number in a width, with blanks in front. -/
def rightIn (width : Nat) (t : Text) : Text := List.replicate (width - t.length) ' ' ++ t

/-- A text in a width, with blanks behind it. -/
def leftIn (width : Nat) (t : Text) : Text := t ++ List.replicate (width - t.length) ' '

/-- Shows files one after the other. -/
def cat : Tool := optioned "cat" "AbeEnstTuv"
    ["show-all=A", "number-nonblank=b", "show-ends=E", "number=n", "squeeze-blank=s", "show-tabs=T",
      "show-nonprinting=v"] 1 fun g s =>
  let passes := s.isLive 0 && (g.operands.isEmpty || g.operands.contains ['-'])
  let s := if passes then s.put (s.ahead 0) else s
  let (s, texts) := s.gather "cat" 1 g.operands
  let text := texts.flatMap Prod.snd
  let has (letters : String) : Bool := letters.toList.any (g.has ·)
  let isEndless := g.operands.any fun name =>
    match s.contentAt? name with
    | some (.device name) => name = "zero".toList || name = "urandom".toList || name = "full".toList
    | _ => false
  let out := if !has "AbeEnstTv" then text
    else
      let pieces := text.splitBy fun a _ => a != '\n'
      let pieces := if has "s" then
          ((pieces.zip ([] :: pieces)).filter fun (line, before) =>
            !(line = ['\n'] && before = ['\n'])).map Prod.fst
        else pieces
      (pieces.foldl (fun (out, n) line =>
        let isCounted := (has "n" && !has "b") || (has "b" && line ≠ ['\n'])
        let n := if isCounted then n + 1 else n
        let number := if isCounted then rightIn 6 (Text.ofNat n) ++ ['\t'] else []
        let shown := if has "AetTv" then
            line.flatMap fun c =>
              if c = '\t' then (if has "AtT" then ['^', 'I'] else [c])
              else if has "Aetv" then visible false c else [c]
          else line
        let ended := if has "AeE" && line.getLast? = some '\n' then shown.dropLast ++ ['$', '\n']
          else shown
        (out ++ [number ++ ended], n)) (([] : List Text), 0)).1.flatten
  let s := s.put out
  if isEndless then s.endless else s

/-! ### What is known of files -/

/-- The names of users and groups by number. -/
def userName (n : Nat) : Text :=
  match n with
  | 0 => "root".toList
  | 1 => "daemon".toList
  | 2 => "bin".toList
  | 33 => "www-data".toList
  | 65534 => "nobody".toList
  | n => Text.ofNat n

/-- The number of a user, by name or by number. -/
def userNumber? (t : Text) : Option Nat :=
  match String.ofList t with
  | "root" => some 0
  | "daemon" => some 1
  | "bin" => some 2
  | "www-data" => some 33
  | "nobody" => some 65534
  | "nogroup" => some 65534
  | _ => if !t.isEmpty && t.all Char.isDigit then some (digitsValue t) else none

/-- The letter and the words for the kind of a file. -/
def kindOf (file : Inode) (size : Nat) : Char × Text :=
  match file.content with
  | .plain _ => ('-', if size = 0 then "regular empty file".toList else "regular file".toList)
  | .program _ => ('-', "regular file".toList)
  | .directory _ => ('d', "directory".toList)
  | .link _ => ('l', "symbolic link".toList)
  | .queue _ => ('p', "fifo".toList)
  | .device _ => ('c', "character special file".toList)

/-- The number of blocks of 512 bytes that a file takes. -/
def blocksOf (file : Inode) (size : Nat) : Nat :=
  match file.content with
  | .plain _ => (size + 4095) / 4096 * 8
  | .program _ => (size + 4095) / 4096 * 8
  | .directory _ => 8
  | _ => 0

/-- A size with a letter behind it for what it counts in. -/
def humanSize (base n : Nat) : Text :=
  let rec go (fuel : Nat) (n unit : Nat) (units : Text) : Text :=
    match fuel, units with
    | fuel + 1, letter :: more =>
        if n < base * unit * base then
          let tenths := (n * 10 + base * unit - 1) / (base * unit)
          if tenths < 100 then Text.ofNat (tenths / 10) ++
              '.' :: Text.ofNat (tenths % 10) ++ [letter]
          else
            let whole := (n + base * unit - 1) / (base * unit)
            if whole < base then Text.ofNat whole ++ [letter] else go fuel n (unit * base) more
        else go fuel n (unit * base) more
    | _, _ => Text.ofNat n
  if n < base then Text.ofNat n
  else go 6 n 1 (if base = 1000 then "kMGTPE".toList else "KMGTPE".toList)

namespace State

/-- A moment in thousand-millionths of a second, as the clocks of the zone show it. -/
def momentOf (s : State) (time : Int) : Moment :=
  Moment.ofSeconds s.zone (Int.fdiv time World.second) (Int.fmod time World.second).toNat

/-- A moment as lists show it: with the time of the day if it is not long ago. -/
def shownTime (s : State) (style : Option Text) (time : Int) : Text :=
  let m := s.momentOf time
  match style with
  | some format => m.written format
  | none =>
      let half : Int := 15778476 * World.second
      if time ≤ s.world.now + 3600 * World.second && s.world.now - half ≤ time then
        m.written "%b %e %H:%M".toList
      else m.written "%b %e  %Y".toList

end State

/-! ### Lists -/

/-- A file in a list: its name, its number and what is known of it. -/
structure Listed where
  name : Text
  number : Nat
  file : Inode

namespace Listed

/-- The key by which versions are put in order: digits count by their number. -/
def versionLe : Nat → Text → Text → Bool
  | 0, _, _ => true
  | fuel + 1, a, b =>
      match a, b with
      | [], _ => true
      | _, [] => false
      | c :: as, d :: bs =>
          if c.isDigit && d.isDigit then
            let x := a.takeWhile Char.isDigit
            let y := b.takeWhile Char.isDigit
            if digitsValue x ≠ digitsValue y then digitsValue x < digitsValue y
            else versionLe fuel (a.drop x.length) (b.drop y.length)
          else if c = d then versionLe fuel as bs
          else
            let order (c : Char) : Nat :=
              if c = '~' then 0 else if c.isDigit then 1 else if c.isAlpha then 1 + c.toNat
              else 300 + c.toNat
            order c < order d

/-- The ending of a name. -/
def ending (name : Text) : Text :=
  if name.contains '.' then (name.reverse.takeWhile (· != '.')).reverse else []

/-- Files in the order that the options ask for. -/
def inOrder (g : Given) (store : Store) (files : List Listed) : List Listed :=
  let time (f : Listed) : Int :=
    if g.has 'u' then f.file.accessed else if g.has 'c' then f.file.changed else f.file.modified
  let byName (a b : Listed) : Bool := Text.le a.name b.name
  let sort := g.longValue? "sort"
  let asks (c : Char) (word : String) : Bool :=
    g.last? "tSXvUf" == some c || sort == some word.toList
  let sorted :=
    if asks 'U' "none" || asks 'f' "none" then files
    else if asks 't' "time" || ((g.has 'c' || g.has 'u') && !g.has 'l') then
      files.mergeSort fun a b => time b < time a || (time a == time b && byName a b)
    else if asks 'S' "size" then
      files.mergeSort fun a b =>
        let x := store.size a.number
        let y := store.size b.number
        y < x || (x == y && byName a b)
    else if asks 'X' "extension" then
      files.mergeSort fun a b =>
        let x := ending a.name
        let y := ending b.name
        if x = y then byName a b else Text.le x y
    else if asks 'v' "version" then
      files.mergeSort fun a b => versionLe (a.name.length + b.name.length + 1) a.name b.name
    else files.mergeSort byName
  let turned := if g.has 'r' then sorted.reverse else sorted
  if g.hasLong "group-directories-first" then
    turned.filter (store.isDirectory ·.number) ++ turned.filter (!store.isDirectory ·.number)
  else turned

/-- The sign behind a name that tells what it is. -/
def mark (g : Given) (f : Listed) : Text :=
  let isFull := g.has 'F'
  match f.file.content with
  | .directory _ => if isFull || g.has 'p' then ['/'] else []
  | .link _ => if isFull && !g.has 'l' then ['@'] else []
  | .queue _ => if isFull then ['|'] else []
  | .plain _ => if isFull && f.file.mode &&& 0o111 ≠ 0 then ['*'] else []
  | .program _ => if isFull then ['*'] else []
  | .device _ => []

/-- The way in which times are to be shown. -/
def timeStyle (g : Given) : Option Text :=
  if g.hasLong "full-time" then some "%Y-%m-%d %H:%M:%S.%N %z".toList
  else
    match g.longValue? "time-style" with
    | some ('+' :: format) => some format
    | some style => match String.ofList style with
        | "full-iso" => some "%Y-%m-%d %H:%M:%S.%N %z".toList
        | "long-iso" => some "%Y-%m-%d %H:%M".toList
        | "iso" => some "%m-%d %H:%M".toList
        | _ => none
    | none => none

/-- The columns of a long line. -/
def columns (g : Given) (s : State) (f : Listed) : List Text :=
  let store := s.world.store
  let size := store.size f.number
  let time := if g.has 'u' then f.file.accessed else if g.has 'c' then f.file.changed
    else f.file.modified
  let number (n : Nat) : Text := if g.has 'n' then Text.ofNat n else userName n
  let links := match f.file.content with
    | .directory _ => store.linkCount f.number
    | .program _ => 1
    | _ => store.linkCount f.number
  [Mode.written (kindOf f.file size).1 f.file.mode, Text.ofNat links] ++
    (if g.has 'g' then [] else [number f.file.owner]) ++
    (if g.has 'o' || g.has 'G' then [] else [number f.file.group]) ++
    [if g.has 'h' then humanSize 1024 size else Text.ofNat size, s.shownTime (timeStyle g) time]

/-- Rows of columns, each in the width of its widest entry; the first columns are numbers or not. -/
def aligned (rows : List (List Text)) : List Text :=
  let count := (rows.map List.length).foldl max 0
  let widths := (List.range count).map fun n =>
      (rows.map fun row => (row.getD n []).length).foldl max 0
  rows.map fun row =>
    Text.joinWith [' '] ((row.zip widths).zipIdx.map fun ((t, width), n) =>
      let isText := n = 2 || (n = 3 && 5 < count)
      if isText then leftIn width t else rightIn width t)

/-- The lines that show files. -/
def shown (g : Given) (s : State) (files : List Listed) : Text :=
  let store := s.world.store
  let quoted (t : Text) : Text := if g.has 'Q' then '"' :: t ++ ['"']
    else if g.has 'q' then t.map fun c => if isHardSign c then '?' else c else t
  let before (f : Listed) : Text :=
    (if g.has 'i' then Text.ofNat (f.number + 2) ++ [' '] else []) ++
      (if g.has 's' then Text.ofNat (blocksOf f.file (store.size f.number) / 2) ++ [' '] else [])
  let named (f : Listed) : Text :=
    let target : Text := match f.file.content with
      | .link target => if g.has 'l' then " -> ".toList ++ target else []
      | _ => []
    quoted f.name ++ mark g f ++ target
  if g.has 'l' || g.has 'n' || g.has 'g' || g.has 'o' then
    let rows := aligned (files.map (columns g s))
    (files.zip rows).flatMap fun (f, row) => before f ++ row ++ ' ' :: named f ++ ['\n']
  else if g.last? "1mCx" = some 'm' then
    if files.isEmpty then []
    else Text.joinWith ", ".toList (files.map fun f => before f ++ named f) ++ ['\n']
  else if g.last? "1mCx" = some 'C' || g.last? "1mCx" = some 'x' then
    if files.isEmpty then []
    else Text.joinWith "  ".toList (files.map fun f => before f ++ named f) ++ ['\n']
  else files.flatMap fun f => before f ++ named f ++ (if g.hasLong "zero" then ['\x00'] else ['\n'])
where
  /-- A sign that is hard to show. -/
  isHardSign (c : Char) : Bool := c.toNat < 0x20 || c.toNat = 0x7f

end Listed

/-- The files in a directory that are to be listed. -/
def listedIn (g : Given) (s : State) (directory : Nat) : List Listed :=
  let store := s.world.store
  let all := (store.entries directory).filter fun (name, _) =>
    let isSelf := name = ['.'] || name = ['.', '.']
    if isSelf then g.has 'a' || g.has 'f'
    else name.head? ≠ some '.' || g.has 'a' || g.has 'A' || g.has 'f'
  let isHidden (name : Text) : Bool :=
    (g.values 'I' ++ (g.longValue? "hide").toList).any fun p =>
      (Pattern.ofSigns ⟨['!', '^'], false, false⟩ (Signs.plain p)).fits false name
  let all := all.filter fun (name, _) =>
    !isHidden name && !(g.has 'B' && name.getLast? = some '~')
  Listed.inOrder g store (all.map fun (name, n) =>
    let n := if g.has 'L' then ((store.find true directory name).toOption).getD n else n
    ⟨name, n, store.inode n⟩)

/-- A directory as a list shows it, and the ones in it where that is asked for. -/
def listDirectory (g : Given) (s : State) (isTitled : Bool) : Nat → Text → Nat → Text
  | 0, _, _ => []
  | fuel + 1, path, n =>
      let store := s.world.store
      let files := listedIn g s n
      let isLong := g.has 'l' || g.has 'n' || g.has 'g' || g.has 'o' || g.has 's'
      let blocks := (files.map fun f => blocksOf f.file (store.size f.number)).foldl (· + ·) 0
      let total := if g.has 'h' then humanSize 1024 (blocks * 512) else Text.ofNat (blocks / 2)
      let isDeep := g.has 'R'
      let head := if isTitled || isDeep then path ++ [':', '\n'] else []
      let inner := if isDeep then
          (files.filter fun f => store.isDirectory f.number && f.name ≠ ['.'] &&
            f.name ≠ ['.', '.']).flatMap fun f =>
              '\n' :: listDirectory g s true fuel (under path f.name) f.number
        else []
      head ++ (if isLong then "total ".toList ++ total ++ ['\n'] else []) ++
        Listed.shown g s files ++
        inner

/-- Lists files and directories. -/
def list : Tool := optioned "ls" "aAbBcCdfFgGhHiI:klLmnNopqQrRsStT:uUvw:xXZ1"
    ["all=a", "almost-all=A", "author", "escape=b", "block-size:", "ignore-backups=B", "color?",
      "directory=d", "classify?", "file-type=p", "format:", "full-time", "no-group=G",
      "group-directories-first", "human-readable=h", "si=h", "dereference-command-line=H",
      "dereference-command-line-symlink-to-dir", "hide:", "hyperlink?",
        "indicator-style:", "inode=i",
      "ignore=I", "kibibytes=k", "dereference=L", "numeric-uid-gid=n", "literal=N",
      "hide-control-chars=q", "show-control-chars", "quote-name=Q", "quoting-style:", "reverse=r",
      "recursive=R", "size=s", "sort:", "time:", "time-style:", "tabsize=T", "width=w", "context=Z",
      "zero"] 2 fun g s =>
  let g := if g.hasLong "full-time" || g.longValue? "format" = some "long".toList then
      g.withOption ['l'] []
    else if g.hasLong "classify" then g.withOption ['F'] [] else g
  let names := if g.operands.isEmpty then [['.']] else g.operands
  let isLong := g.has 'l' || g.has 'd' || g.has 'F' || g.has 'n' || g.has 'g' || g.has 'o'
  let follows := g.has 'L' || g.has 'H' || !isLong
  let found := names.map fun name =>
    let first := s.inodeAt follows name
    (name, if first.isOk then first else s.inodeAt false name)
  let s := found.foldl (fun s (name, result) => match result with
    | .error fault => s.failOver 2 "ls".toList "cannot access ".toList name fault
    | .ok _ => s) s
  let store := s.world.store
  let present := found.filterMap fun (name, result) => result.toOption.map fun n =>
    (⟨name, n, store.inode n⟩ : Listed)
  let isListed (f : Listed) : Bool := store.isDirectory f.number && !g.has 'd'
  let files := Listed.inOrder g store (present.filter (!isListed ·))
  let directories := Listed.inOrder g store (present.filter isListed)
  let isTitled := 1 < names.length
  let fileText := Listed.shown g s files
  let directoryTexts := directories.map fun f => listDirectory g s isTitled 64 f.name f.number
  let parts := (if files.isEmpty then [] else [fileText]) ++ directoryTexts
  s.put (Text.joinWith ['\n'] parts)

/-! ### Facts about files -/

/-- What a letter of a format says about a file. -/
def factOf (s : State) (path : Text) (n : Nat) (letter : Char) : Text :=
  let store := s.world.store
  let file := store.inode n
  let size := store.size n
  let time (t : Int) : Text := (s.momentOf t).written "%Y-%m-%d %H:%M:%S.%N %z".toList
  let seconds (t : Int) : Text := Text.ofInt (Int.fdiv t World.second)
  let typeBits := match file.content with
    | .directory _ => 0o040000
    | .link _ => 0o120000
    | .queue _ => 0o010000
    | .device _ => 0o020000
    | _ => 0o100000
  match letter with
  | 'a' => Mode.digits file.mode
  | 'A' => Mode.written (kindOf file size).1 file.mode
  | 'b' => Text.ofNat (blocksOf file size)
  | 'B' => "512".toList
  | 'd' => "2049".toList
  | 'D' => "801".toList
  | 'f' => inBase 16 (typeBits + file.mode)
  | 'F' => (kindOf file size).2
  | 'g' => Text.ofNat file.group
  | 'G' => userName file.group
  | 'h' => Text.ofNat (store.linkCount n)
  | 'i' => Text.ofNat (n + 2)
  | 'm' => ['/']
  | 'n' => path
  | 'N' =>
      let target : Text := match file.content with
        | .link target => " -> ".toList ++ inQuotes target
        | _ => []
      if target.isEmpty && path.all fun c => c.isAlphanum || "._-/".toList.contains c then
        inQuotes path else inQuotes path ++ target
  | 'o' => "4096".toList
  | 's' => Text.ofNat size
  | 't' => ['0']
  | 'T' => ['0']
  | 'u' => Text.ofNat file.owner
  | 'U' => userName file.owner
  | 'w' => time file.changed
  | 'W' => seconds file.changed
  | 'x' => time file.accessed
  | 'X' => seconds file.accessed
  | 'y' => time file.modified
  | 'Y' => seconds file.modified
  | 'z' => time file.changed
  | 'Z' => seconds file.changed
  | '%' => ['%']
  | _ => ['?']

/-- Facts about a file by a format, with enough fuel for its length. -/
def factsBy (s : State) (path : Text) (n : Nat) : Nat → Text → Text
  | 0, _ => []
  | fuel + 1, '%' :: rest =>
      match rest with
      | '%' :: rest => '%' :: factsBy s path n fuel rest
      | rest =>
          let flags := rest.takeWhile "-+ 0#\x27".toList.contains
          let after := rest.drop flags.length
          let digits := after.takeWhile Char.isDigit
          let after := after.drop digits.length
          let (precision, after) := match after with
            | '.' :: more => (some (more.takeWhile Char.isDigit), more.dropWhile Char.isDigit)
            | after => (none, after)
          let after := match after with
            | c :: d :: more => if (c = 'H' || c = 'L') && "dr".toList.contains d then d :: more
                else after
            | after => after
          match after with
          | letter :: after =>
              let t := factOf s path n letter
              let t := precision.elim t fun p =>
                if letter = 'X' || letter = 'Y' || letter = 'Z' || letter = 'W' then
                  t ++ (if p = ['0'] then [] else
                    '.' :: List.replicate (if p.isEmpty then 9 else digitsValue p) '0')
                else t.take (digitsValue p)
              let width := digitsValue digits
              let t := if flags.contains '#' && letter = 'a' then '0' :: t else t
              let padded := if flags.contains '-' then leftIn width t
                else if flags.contains '0' then List.replicate (width - t.length) '0' ++ t
                else rightIn width t
              padded ++ factsBy s path n fuel after
          | [] => ['%']
  | fuel + 1, c :: rest => c :: factsBy s path n fuel rest
  | _ + 1, [] => []

/-- All that is told about a file. -/
def factSheet : Text :=
  "  File: %N\n  Size: %-10s\tBlocks: %-10b IO Block: %-6o %F\n".toList ++
    "Device: 8,1\tInode: %-11i Links: %h\n".toList ++
    "Access: (%04a/%10.10A)  Uid: (%5u/%8U)   Gid: (%5g/%8G)\n".toList ++
    "Access: %x\nModify: %y\nChange: %z\n Birth: %w\n".toList

/-- Tells facts about files. -/
def facts : Tool := optioned "stat" "c:fLt"
    ["format=c", "printf:", "file-system=f", "dereference=L", "terse=t", "cached:"] 1 fun g s =>
  if g.operands.isEmpty then s.missOperand "stat" 1
  else g.operands.foldl (fun s path =>
    match s.inodeAt (g.has 'L') path with
    | .error fault => s.failOver 1 "stat".toList "cannot statx ".toList path fault
    | .ok n =>
        let byFormat (format : Text) : Text := factsBy s path n (format.length + 1) format
        if g.has 'f' then s.put (match g.value? 'c' with
          | some format => byFormat (format.map fun c => if c = 'T' then 's' else c) ++ ['\n']
          | none => "  File: \"".toList ++ path ++ "\"\n".toList)
        else
          match g.longValue? "printf", g.value? 'c' with
          | some format, _ =>
              let (t, _) := Escape.decode true true (format.length + 1) format
              s.put (byFormat t)
          | none, some format => s.put (byFormat format ++ ['\n'])
          | none, none => s.put (byFormat (if g.has 't' then
              "%n %s %b %f %u %g %D %i %h %t %T %X %Y %Z %W %o\n".toList else factSheet))) s

/-! ### Where paths lead -/

namespace State

/-- The path from the root on without any links; what is missing may be the last name, or any names,
or none. -/
def truePath? (s : State) (allowsLast allowsAll : Bool) (path : Text) : Except Fault Text :=
  match s.inodeAt true path with
  | .ok n =>
      if s.world.store.isDirectory n then .ok (s.world.store.pathOf n)
      else do
        let (directory, name, _) ← s.world.store.place true s.here path
        return under (s.world.store.pathOf directory) name
  | .error fault =>
      match fault, s.world.store.place true s.here (withoutSlashes path) with
      | .notFound, .ok (directory, name, none) =>
          if allowsLast || allowsAll then .ok (under (s.world.store.pathOf directory) name)
          else .error fault
      | fault, _ =>
          if allowsAll then
            let whole := if path.head? = some '/' then path else s.directory ++ '/' :: path
            let names := whole.slashPieces.filter (!·.isEmpty)
            .ok ('/' :: Text.joinWith ['/'] (names.foldl (fun way name =>
              if name = ['.'] then way else if name = ['.', '.'] then way.dropLast
              else way ++ [name]) []))
          else .error fault

/-- A path as it is seen from a directory, both from the root on. -/
def relativeTo (base path : Text) : Text :=
  let names (t : Text) : List Text := t.slashPieces.filter (!·.isEmpty)
  let common := ((names base).zip (names path)).takeWhile fun (a, b) => a == b
  let ups := (names base).length - common.length
  let way := List.replicate ups ['.', '.'] ++ (names path).drop common.length
  if way.isEmpty then ['.'] else Text.joinWith ['/'] way

end State

/-- The places of files. -/
def realPath : Tool := onEach "realpath" "emLPqsz"
    ["canonicalize-existing=e", "canonicalize-missing=m", "logical=L", "physical=P", "quiet=q",
      "relative-to:", "relative-base:", "strip=s", "no-symlinks=s", "zero=z"] fun g path s =>
  match s.truePath? (!g.has 'e') (g.has 'm') path with
  | .ok t =>
      let t := match g.longValue? "relative-to" with
        | some base => match s.truePath? true true base with
            | .ok base => State.relativeTo base t
            | .error _ => t
        | none => t
      s.put (t ++ (if g.has 'z' then ['\x00'] else ['\n']))
  | .error fault => if g.has 'q' then s.withStatus 1
      else s.complain 1 "realpath".toList (path ++ ": ".toList ++ fault.message)

/-- What links lead to. -/
def readLink : Tool := onEach "readlink" "femnqsvz"
    ["canonicalize=f", "canonicalize-existing=e", "canonicalize-missing=m", "no-newline=n",
      "quiet=q", "silent=s", "verbose=v", "zero=z"] fun g path s =>
  let ending : Text := if g.has 'n' && g.operands.length < 2 then [] else if g.has 'z' then ['\x00']
    else ['\n']
  if g.has 'f' || g.has 'e' || g.has 'm' then
    match s.truePath? (!g.has 'e') (g.has 'm') path with
    | .ok t => s.put (t ++ ending)
    | .error _ => s.withStatus 1
  else
    match (s.inodeAt false path).toOption.map s.world.store.content with
    | some (.link target) => s.put (target ++ ending)
    | _ => s.withStatus 1

/-! ### Room -/

/-- The room that files under a directory take, in blocks of 512 bytes or in bytes, with the lines
about directories. -/
def roomUnder (g : Given) (s : State) : Nat → Nat → Text → Nat → Nat × List (Nat × Text)
  | 0, _, _, _ => (0, [])
  | fuel + 1, depth, path, n =>
      let store := s.world.store
      let file := store.inode n
      let own := if g.has 'b' || g.hasLong "apparent-size" then store.size n
        else blocksOf file (store.size n) * 512
      match file.content with
      | .directory _ =>
          let (sum, lines) := (store.names n).foldl (fun (sum, lines) name =>
            match Table.get? (store.entries n) name with
            | some m =>
                let (size, more) := roomUnder g s fuel (depth + 1) (under path name) m
                (sum + size, lines ++ more)
            | none => (sum, lines)) (own, [])
          let isShown : Bool := match g.value? 'd' with
            | some limit => decide (depth ≤ digitsValue limit)
            | none => !g.has 's' || depth = 0
          (sum, if isShown then lines ++ [(sum, path)] else lines)
      | _ =>
          let isShown := depth = 0 || (g.has 'a' && !g.has 's')
          (own, if isShown then [(own, path)] else [])

/-- Tells how much room files take. -/
def room : Tool := optioned "du" "0abB:cd:DhHklLmPsSt:xX:"
    ["all=a", "apparent-size", "bytes=b", "total=c", "max-depth=d", "human-readable=h",
      "summarize=s",
      "dereference=L", "block-size=B", "exclude:", "one-file-system=x", "time?", "si"] 1 fun g s =>
  let size (n : Nat) : Text :=
    if g.has 'h' then humanSize 1024 n
    else if g.has 'b' then Text.ofNat n
    else if g.has 'm' then Text.ofNat ((n + 1048575) / 1048576)
    else
      let unit := ((g.value? 'B').bind sizeOf?).getD 1024
      Text.ofNat ((n + unit - 1) / (max unit 1))
  let (s, sum) := (if g.operands.isEmpty then [['.']] else g.operands).foldl (fun (s, sum) path =>
    match s.inodeAt (g.has 'L') path with
    | .error fault => (s.failOver 1 "du".toList "cannot access ".toList path fault, sum)
    | .ok n =>
        let (all, lines) := roomUnder g s 64 0 path n
        (s.put (lines.flatMap fun (n, path) => size n ++ '\t' :: path ++ ['\n']), sum + all)) (s, 0)
  if g.has 'c' then s.put (size sum ++ "\ttotal\n".toList) else s

/-- Tells how much room there is. -/
def freeRoom : Tool := optioned "df" "aB:hHiklPt:Tvx:"
    ["all=a", "block-size=B", "human-readable=h", "inodes=i", "local=l", "portability=P",
      "output?", "print-type=T", "type=t", "total", "sync", "no-sync",
        "exclude-type=x"] 1 fun g s =>
  let s := g.operands.foldl (fun s path => match s.inodeAt true path with
    | .error fault => s.complain 1 "df".toList (path ++ ": ".toList ++ fault.message)
    | .ok _ => s) s
  s.put ("Filesystem     1K-blocks    Used Available Use% Mounted on\n".toList ++
    "overlay         10485760 1048576   9437184  10% /\n".toList)

end KeyMenu.Sh
