import KeyMenu.Sh.Tool.Packed

/-!
# Archives

Many files in one: each one has a head that tells its name and what is known of it
(`Archive.Member`), and all of it comes in blocks of the same size. `archive` is the program that
makes archives, shows what is in them and takes it out.
-/

namespace KeyMenu.Sh

namespace Archive

/-- A file in an archive: its name, its permissions, its time, its kind, where it leads if it is a
link, and its text. -/
structure Member where
  name : Text
  mode : Nat
  time : Nat
  kind : Char
  target : Text
  text : Text

/-- Blocks have so many bytes. -/
def blockSize : Nat := 512

/-- A field of a head. -/
def field (width : Nat) (t : Text) : Text :=
  t.take width ++ List.replicate (width - t.length) '\x00'

/-- A number in a field. -/
def numberField (width n : Nat) : Text :=
  let t := inBase 8 n
  List.replicate (width - 1 - t.length) '0' ++ t ++ ['\x00']

/-- A text filled up to whole blocks. -/
def filled (size : Nat) (t : Text) : Text :=
  t ++ List.replicate ((size - t.length % size) % size) '\x00'

/-- A file as it stands in an archive. -/
def Member.written (m : Member) : Text :=
  let before := field 100 m.name ++ numberField 8 m.mode ++ numberField 8 0 ++ numberField 8 0 ++
    numberField 12 m.text.length ++ numberField 12 m.time
  let after := [m.kind] ++ field 100 m.target ++ "ustar  \x00".toList ++ field 32 "root".toList ++
    field 32 "root".toList
  let sum := (before ++ after).foldl (fun n c => n + c.toNat) (8 * 32)
  let head := before ++ (numberField 7 sum ++ [' ']) ++ after
  filled blockSize head ++ filled blockSize m.text

/-- An archive of files. -/
def written (members : List Member) : Text :=
  filled (20 * blockSize)
    (members.flatMap Member.written ++ List.replicate (2 * blockSize) '\x00')

/-- The text of a field. -/
def textAt (head : Text) (start width : Nat) : Text :=
  ((head.drop start).take width).takeWhile (· != '\x00')

/-- The number in a field. -/
def numberAt (head : Text) (start width : Nat) : Nat :=
  (((digitsOf 8 width ((textAt head start width).dropWhile (· == ' '))).map Prod.fst)).getD 0

/-- The files of an archive; there is nothing if it is none. -/
def read? : Nat → Text → Option (List Member)
  | 0, _ => none
  | fuel + 1, t =>
      if t.isEmpty then some []
      else if t.length < blockSize then none
      else
        let head := t.take blockSize
        if head.all (· == '\x00') then some []
        else
          let sum := ((head.take 148) ++ List.replicate 8 ' ' ++ head.drop 156).foldl
            (fun n c => n + c.toNat) 0
          if sum ≠ numberAt head 148 8 then none
          else
            let size := numberAt head 124 12
            let rest := t.drop blockSize
            let used := (size + blockSize - 1) / blockSize * blockSize
            (read? fuel (rest.drop used)).map fun members =>
              ⟨textAt head 0 100, numberAt head 100 8, numberAt head 136 12,
                (head[156]?).getD '0', textAt head 157 100, rest.take size⟩ :: members

/-- The path under which a file is kept: it does not begin at the root. -/
def kept (path : Text) : Text := path.dropWhile (· == '/')

/-- The members for a file and all that is under it. -/
def gathered (store : Store) (isLeftOut : Text → Bool) : Nat → Text → Nat → List Member
  | 0, _, _ => []
  | fuel + 1, path, n =>
      let file := store.inode n
      let time := (file.modified / World.second).toNat
      if isLeftOut path then []
      else
        match file.content with
        | .directory _ =>
            let name := withoutSlashes path
            ⟨kept name ++ ['/'], file.mode, time, '5', [], []⟩ ::
              (store.names n).flatMap fun inner =>
                match Table.get? (store.entries n) inner with
                | some m => gathered store isLeftOut fuel (under name inner) m
                | none => []
        | .link target => [⟨kept path, file.mode, time, '2', target, []⟩]
        | .plain text => [⟨kept path, file.mode, time, '0', [], text⟩]
        | .program text => [⟨kept path, file.mode, time, '0', [], text⟩]
        | .queue _ => [⟨kept path, file.mode, time, '6', [], []⟩]
        | .device _ => [⟨kept path, file.mode, time, '3', [], []⟩]

/-- A name without some of the directories in front. -/
def stripped? (count : Nat) (name : Text) : Option Text :=
  let parts := (splitAt '/' name).filter fun p => !p.isEmpty && p ≠ ['.']
  if parts.length ≤ count then none else some (Text.joinWith ['/'] (parts.drop count))

/-- The permissions as letters. -/
def letters (m : Member) : Text :=
  let kind := match m.kind with
    | '5' => 'd'
    | '2' => 'l'
    | '6' => 'p'
    | _ => '-'
  kind :: ((List.range 9).map fun n =>
    if m.mode / twoTo (8 - n) % 2 = 1 then ("rwx".toList[n % 3]?).getD '-' else '-')

/-- A line that tells about a file. -/
def line (isLong : Bool) (zone : Zone) (m : Member) : Text :=
  let shown := m.name ++ if isLong && m.kind = '2' then " -> ".toList ++ m.target else []
  (if isLong then
    letters m ++ " root/root ".toList ++ rightIn 9 (Text.ofNat m.text.length) ++ ' ' ::
      (Moment.ofSeconds zone m.time 0).written "%Y-%m-%d %H:%M ".toList
  else []) ++ shown ++ ['\n']

/-- Takes a file out of an archive. -/
def extract (target : Text) (keepsOld : Bool) (m : Member) (s : State) : State :=
  let fail (s : State) (fault : Fault) : State :=
    s.complain 2 "tar".toList (target ++ ": Cannot open: ".toList ++ fault.message)
  let set (s : State) (follows : Bool) : State :=
    match s.inodeAt follows target with
    | .ok n => s.changeInode n fun file => { file with
        mode := Mode.without m.mode s.mask
        modified := (m.time : Int) * World.second }
    | .error _ => s
  if m.kind = '5' then
    match makeWay "tar" none target s with
    | .ok s => set s true
    | .error .exists => fail s .exists
    | .error fault => fail s fault
  else
    let above := directoryName target
    let s := if s.has above then s else (makeWay "tar" none above s).toOption.getD s
    if keepsOld && s.has target then fail s .exists
    else
      let isLink := match (s.inodeAt false target).toOption.map s.world.store.content with
        | some (.link _) => true
        | _ => false
      let s := if isLink then unlink [target] s else s
      if m.kind = '2' then
        let s := if s.has target then unlink [target] s else s
        match s.newPlace target with
        | .ok (directory, name, none) =>
            s.withStore (s.world.store.create directory name (.link m.target) 0o777 s.world.now).1
        | .ok _ => fail s .exists
        | .error fault => fail s fault
      else
        match s.writeAt target m.text .write with
        | .ok s => set s true
        | .error fault => fail s fault

/-- The options of the program for archives. -/
def options : Options :=
  ⟨"AaBC:cdf:GhijJkK:lmMN:oOpPqrRsST:tuUvwxWX:zZ", ["create=c", "extract=x", "get=x",
    "list=t", "append=r",
    "update=u", "diff=d", "compare=d", "catenate=A", "concatenate=A", "file=f", "directory=C",
    "gzip=z", "gunzip=z", "bzip2=j", "xz=J", "verbose=v", "to-stdout=O", "keep-old-files=k",
    "preserve-permissions=p", "absolute-names=P", "auto-compress=a", "exclude:",
      "strip-components:",
    "files-from=T", "exclude-from=X", "no-same-owner", "same-owner", "numeric-owner", "wildcards",
    "overwrite", "remove-files", "null", "owner:", "group:", "mtime:", "sort:",
      "transform:", "mode:",
    "no-recursion", "dereference=h", "touch=m", "warning:", "totals", "checkpoint?", "format:",
    "skip-old-files", "one-file-system", "ignore-failed-read", "no-same-permissions", "posix",
    "use-compress-program:", "show-transformed-names", "xform:"], false⟩

/-- Words whose first one may lack the dash: the values of its letters follow in their order. -/
def withDash (words : List Text) : List Text :=
  match words with
  | (c :: letters) :: rest =>
      if c = '-' then words
      else
        let (front, rest) := (c :: letters).foldl (fun (front, rest) letter =>
          match options.letter? letter, rest with
          | some .value, value :: rest => (front ++ [['-', letter], value], rest)
          | _, rest => (front ++ [['-', letter]], rest)) ([], rest)
        front ++ rest
  | words => words

/-- What packs an archive. -/
def packer? (g : Given) (file : Text) : Option Packed.Packer :=
  let ends (t : String) : Bool := t.toList.isSuffixOf file
  if g.has 'z' || (g.has 'a' && (ends ".gz" || ends ".tgz")) then some Packed.usual
  else if g.has 'j' || (g.has 'a' && ends ".bz2") then some Packed.blockwise
  else if g.has 'J' || (g.has 'a' && ends ".xz") then some Packed.chained
  else none

/-- The text of an archive that may be packed. -/
def unpacked (t : Text) : Text :=
  let tries := [Packed.usual, Packed.blockwise, Packed.chained].findSome? fun p =>
    if p.start.isPrefixOf t then (Packed.unpacked? p (t.length + 1) t).toOption else none
  tries.getD t

end Archive

/-- Makes archives, shows what is in them, and takes it out. -/
def archive : Tool := fun words s =>
  let who := "tar".toList
  match Given.ofWords Archive.options (Archive.withDash words) with
  | .error message => s.complain 64 who message
  | .ok g =>
      let file := (g.value? 'f').getD ['-']
      let pattern (t : Text) : Pattern := Pattern.ofSigns s.patternRules (Signs.plain t)
      let excluded := (g.options.filter (·.1 == "exclude".toList)).map fun (_, t) => pattern t
      let isLeftOut (path : Text) : Bool := excluded.any fun p =>
        p.fits false path || p.fits false (baseName path)
      let base := g.value? 'C'
      let rooted (path : Text) : Text := match base with
        | some d => if path.head? = some '/' then path else under d path
        | none => path
      let isVerbose := g.has 'v'
      let failed (s : State) : State := s.withStatus 2
      let readArchive (s : State) : Except Fault (State × Text) :=
        if file = ['-'] then .ok s.readAll else s.textAt file
      if g.hasLong "help" || g.hasLong "version" then s.write "tar (GNU tar) 1.35\n".toList
      else if g.has 'c' || g.has 'r' || g.has 'u' then
        let listed := (g.value? 'T').bind fun path => (s.textAt path).toOption.map fun (_, t) =>
          (textLines t).filter (!·.isEmpty)
        let names := g.operands ++ listed.getD []
        if names.isEmpty && !g.has 'T' then
          s.complain 2 who "Cowardly refusing to create an empty archive".toList
        else
          let before := if g.has 'c' then [] else
            match readArchive s with
            | .ok (_, t) => (Archive.read? (t.length + 1) t).getD []
            | .error _ => []
          let (s, members) := names.foldl (fun (s, members) path =>
            match s.inodeAt (g.has 'h') (rooted path) with
            | .ok n => (s, members ++ Archive.gathered s.world.store isLeftOut 200 path n)
            | .error fault => (s.complain 2 who (path ++ ": Cannot stat: ".toList ++ fault.message),
                members)) (s.withStatus 0, before)
          let text := Archive.written members
          let out := match Archive.packer? g file with
            | some p => Packed.packed p [] text
            | none => text
          let tell (s : State) : State := if isVerbose then
              (if file = ['-'] then s.mutter
                else s.put) (members.flatMap (Archive.line false s.zone))
            else s
          if file = ['-'] then tell (s.put out)
          else
            match s.writeAt file out .write with
            | .ok s => tell s
            | .error fault => s.complain 2 who (file ++ ": Cannot open: ".toList ++ fault.message)
      else if g.has 't' || g.has 'x' || g.has 'd' then
        match readArchive s with
        | .error fault => s.complain 2 who (file ++ ": Cannot open: ".toList ++ fault.message)
        | .ok (s, packed) =>
            let t := Archive.unpacked packed
            match if t.isEmpty && file ≠ ['-'] && !packed.isEmpty then none
                else Archive.read? (t.length + 1) t with
            | none => s.complain 2 who "This does not look like a tar archive".toList
            | some members =>
                let isAsked (wanted name : Text) : Bool :=
                  let wanted := withoutSlashes wanted
                  withoutSlashes name == wanted || (wanted ++ ['/']).isPrefixOf name ||
                    (g.hasLong "wildcards" && (pattern wanted).fits false name)
                let chosen := members.filter fun m =>
                  (g.operands.isEmpty || g.operands.any (isAsked · m.name)) &&
                    !isLeftOut (withoutSlashes m.name)
                let missing := g.operands.filter fun w => !members.any fun m => isAsked w m.name
                let s := s.withStatus 0
                let s := if g.has 'x' then
                    let strip := ((g.longValue? "strip-components").map digitsValue).getD 0
                    if base.any fun d => !s.hasDirectory d then
                      s.complain 2 who ((base.getD []) ++
                        ": Cannot open: No such file or directory".toList)
                    else chosen.foldl (fun s m =>
                      match Archive.stripped? strip m.name with
                      | none => s
                      | some name =>
                          if g.has 'O' then if m.kind = '0' then s.put m.text else s
                          else
                            let before := s.status
                            let s := Archive.extract (rooted name) (g.has 'k') m (s.withStatus 0)
                            let s := if isVerbose then s.put (m.name ++ ['\n']) else s
                            s.withStatus (max before s.status)) s
                  else if g.has 'd' then
                    let isSame (m : Archive.Member) : Bool :=
                      match s.inodeAt false (rooted m.name) with
                      | .ok n => m.kind ≠ '0' || s.world.fileText n = m.text
                      | .error _ => false
                    if chosen.all isSame then s else s.withStatus 1
                  else s.put (chosen.flatMap (Archive.line isVerbose s.zone))
                if missing.isEmpty then s
                else failed (missing.foldl (fun s w =>
                  s.complain 2 who (w ++ ": Not found in archive".toList)) s)
      else s.complain 2 who "You must specify one of the \x27-Acdtrux\x27 options".toList

/-- What is in an archive can be read again. -/
example : ((Archive.read? 9 (Archive.written [⟨"a/b".toList, 0o644, 1, '0', [], "x\n".toList⟩])).map
    fun members => members.map fun m => (m.name, m.text)) = some [("a/b".toList,
        "x\n".toList)] := by
  decide +kernel

end KeyMenu.Sh
