import KeyMenu.Sh.Tool.Digest
import KeyMenu.Sh.Tool.File
import KeyMenu.Sh.Tool.Search

/-!
# Packed texts

A text is packed by codes of bits, in which what has stood before need not be written once more
(`Packed.deflated`), and unpacked again (`Packed.inflated?`). Programs pack files and unpack them
(`packFiles`), and look into what has been packed.
-/

namespace KeyMenu.Sh

namespace Packed

/-! ### Codes -/

/-- The bits of a text, those of a byte from the lowest one on. -/
def bitsOf (t : Text) : List Bool :=
  t.flatMap fun c => (List.range 8).map fun i => c.toNat / twoTo i % 2 == 1

/-- The number of bits, the lowest one first. -/
def ofLowFirst (bits : List Bool) : Nat := bits.foldr (fun b n => (if b then 1 else 0) + 2 * n) 0

/-- The bytes of bits. -/
def ofBits (bits : List Bool) : Text :=
  (Digest.groupsOf 8 bits.length bits).map fun group => Char.ofNat (ofLowFirst group)

/-- The bits of a number, so many of them, the lowest one first. -/
def lowBits (count n : Nat) : List Bool := (List.range count).map fun i => n / twoTo i % 2 == 1

/-- A code: for each length of its words how many there are, and the values in the order of their
words. -/
structure Code where
  counts : List Nat
  values : Array Nat

/-- The code in which values have words of given lengths; zero stands for none. -/
def Code.ofLengths (lengths : List Nat) : Code :=
  let values := (List.range 16).flatMap fun n =>
    if n = 0 then [] else ((lengths.zipIdx).filter (·.1 == n)).map Prod.snd
  ⟨(List.range 16).map fun n => if n = 0 then 0 else lengths.countP (· == n), values.toArray⟩

/-- Reads a word of a code: the value, and the bits that are left. -/
def Code.read? (c : Code) (bits : List Bool) : Option (Nat × List Bool) :=
  go (c.counts.drop 1) 0 0 0 bits
where
  /-- Reads on: the word so far, the first one of its length and the place of its value. -/
  go : List Nat → Nat → Nat → Nat → List Bool → Option (Nat × List Bool)
    | [], _, _, _, _ => none
    | _, _, _, _, [] => none
    | count :: counts, word, first, index, bit :: bits =>
        let word := word + (if bit then 1 else 0)
        if word < first + count then
          (c.values[index + (word - first)]?).map fun value => (value, bits)
        else go counts (2 * word) (2 * (first + count)) (index + count) bits

/-- The lengths of the words of the code that everybody knows. -/
def usualLengths : List Nat :=
  List.replicate 144 8 ++ List.replicate 112 9 ++ List.replicate 24 7 ++ List.replicate 8 8

/-- The least length and the number of further bits for each value that stands for a repetition. -/
def lengthSteps : List (Nat × Nat) :=
  [(3, 0), (4, 0), (5, 0), (6, 0), (7, 0), (8, 0), (9, 0), (10, 0), (11, 1), (13, 1),
    (15, 1), (17, 1),
    (19, 2), (23, 2), (27, 2), (31, 2), (35, 3), (43, 3), (51, 3), (59, 3), (67, 4),
      (83, 4), (99, 4),
    (115, 4), (131, 5), (163, 5), (195, 5), (227, 5), (258, 0)]

/-- The least distance and the number of further bits for each value that stands for a distance. -/
def distanceSteps : List (Nat × Nat) :=
  (List.range 30).map fun n =>
    if n < 4 then (n + 1, 0)
    else
      let bits := n / 2 - 1
      ((2 + n % 2) * twoTo bits + 1, bits)

/-! ### Unpacking -/

/-- What has been unpacked, and the bits that are left. -/
structure Unpacking where
  text : Array Char
  bits : List Bool

/-- A number of so many bits, and what is left. -/
def number? (count : Nat) (bits : List Bool) : Option (Nat × List Bool) :=
  let taken := bits.take count
  if taken.length < count then none else some (ofLowFirst taken, bits.drop count)

/-- Repeats so many signs from a distance before. -/
def repeatFrom (distance : Nat) : Nat → Array Char → Array Char
  | 0, text => text
  | n + 1, text => repeatFrom distance n (text.push ((text[text.size - distance]?).getD ' '))

/-- Unpacks up to the end of a block. -/
def block? (letters distances : Code) : Nat → Unpacking → Option Unpacking
  | 0, _ => none
  | fuel + 1, u => do
      let (value, bits) ← letters.read? u.bits
      if value < 256 then
        block? letters distances fuel ⟨u.text.push (Char.ofNat value), bits⟩
      else if value = 256 then return { u with bits := bits }
      else
        let (least, more) ← lengthSteps[value - 257]?
        let (extra, bits) ← number? more bits
        let (value, bits) ← distances.read? bits
        let (nearest, further) ← distanceSteps[value]?
        let (far, bits) ← number? further bits
        if u.text.size < nearest + far then none
        else block? letters distances fuel ⟨repeatFrom (nearest + far) (least + extra) u.text, bits⟩

/-- The order in which the lengths of the words of a code of lengths are written. -/
def lengthOrder : List Nat := [16, 17, 18, 0, 8, 7, 9, 6, 10, 5, 11, 4, 12, 3, 13, 2, 14, 1, 15]

/-- Reads so many lengths of words. -/
def lengths? (code : Code) (count : Nat) : Nat → List Nat → List Bool →
    Option (List Nat × List Bool)
  | 0, _, _ => none
  | fuel + 1, found, bits => do
      if count ≤ found.length then return (found.take count, bits)
      else
        let (value, bits) ← code.read? bits
        if value < 16 then lengths? code count fuel (found ++ [value]) bits
        else
          let (least, more) := if value = 16 then (3, 2) else if value = 17 then (3, 3) else (11, 7)
          let (extra, bits) ← number? more bits
          let what ← if value = 16 then found.getLast? else some 0
          lengths? code count fuel (found ++ List.replicate (least + extra) what) bits

/-- Reads the codes of a block that has its own. -/
def codes? (bits : List Bool) : Option (Code × Code × List Bool) := do
  let (n, bits) ← number? 5 bits
  let (m, bits) ← number? 5 bits
  let (k, bits) ← number? 4 bits
  let (given, bits) ← (List.range (k + 4)).foldlM (fun (given, bits) _ => do
    let (length, bits) ← number? 3 bits
    return (given ++ [length], bits)) (([], bits) : List Nat × List Bool)
  let lengths := (List.range 19).map fun value =>
    ((lengthOrder.zip given).find? (·.1 == value)).elim 0 Prod.snd
  let (all, bits) ← lengths? (.ofLengths lengths) (n + m + 258) 400 [] bits
  return (.ofLengths (all.take (n + 257)), .ofLengths (all.drop (n + 257)), bits)

/-- Unpacks what is written as it is. -/
def plainBlock? (u : Unpacking) : Option Unpacking := do
  let (count, bits) ← number? 16 (u.bits.drop (u.bits.length % 8))
  let (_, bits) ← number? 16 bits
  let taken := bits.take (8 * count)
  if taken.length < 8 * count then none
  else return ⟨(ofBits taken).foldl Array.push u.text, bits.drop (8 * count)⟩

/-- Unpacks a block of a kind: what is written as it is, in the code that everybody knows, or in
codes of its own. -/
def blockOf? (kind : Nat) (u : Unpacking) : Option Unpacking :=
  match kind with
  | 0 => plainBlock? u
  | 1 => block? (.ofLengths usualLengths) (.ofLengths (List.replicate 30 5)) (u.bits.length + 1) u
  | 2 => (codes? u.bits).bind fun (letters, distances, bits) =>
      block? letters distances (bits.length + 1) ⟨u.text, bits⟩
  | _ => none

/-- Unpacks one block after the other. -/
def inflated? : Nat → Unpacking → Option Unpacking
  | 0, _ => none
  | fuel + 1, u => do
      let (isLast, bits) ← number? 1 u.bits
      let (kind, bits) ← number? 2 bits
      let after ← blockOf? kind ⟨u.text, bits⟩
      if isLast = 1 then return after else inflated? fuel after

/-! ### Packing -/

/-- The word of a value in the code that everybody knows. -/
def usualWord (value : Nat) : List Bool :=
  let (count, n) :=
    if value < 144 then (8, 0x30 + value)
    else if value < 256 then (9, 0x190 + value - 144)
    else if value < 280 then (7, value - 256)
    else (8, 0xc0 + value - 280)
  (lowBits count n).reverse

/-- The value that stands for a length or a distance, and the further bits. -/
def stepOf (steps : List (Nat × Nat)) (n : Nat) : Nat × List Bool :=
  let below := steps.takeWhile fun (least, _) => least ≤ n
  let (least, more) := below.getLast?.getD (0, 0)
  (below.length - 1, lowBits more (n - least))

/-- How long two texts are the same. -/
def sharedLength : Nat → Text → Text → Nat
  | fuel + 1, a :: s, b :: t => if a = b then sharedLength fuel s t + 1 else 0
  | _, _, _ => 0

/-- The longest repetition of what comes next, at most so far before: its length and its
distance. -/
def repetition (before : List Text) (t : Text) : Nat × Nat :=
  (before.zipIdx).foldl (fun best (earlier, n) =>
    if earlier.head? = t.head? then
      let length := sharedLength 258 earlier t
      if best.1 < length then (length, n + 1) else best
    else best) (0, 0)

/-- The bits of a text; what has been before is told by its distance. -/
def bitsFrom : Nat → List Text → Text → List Bool
  | 0, _, _ => []
  | _ + 1, _, [] => []
  | fuel + 1, before, c :: rest =>
      let (length, distance) := repetition before (c :: rest)
      if length < 3 then
        usualWord c.toNat ++ bitsFrom fuel (((c :: rest) :: before).take 2000) rest
      else
        let (value, more) := stepOf lengthSteps length
        let (far, further) := stepOf distanceSteps distance
        let passed := (List.range length).map fun n => (c :: rest).drop n
        usualWord (257 + value) ++ more ++ (lowBits 5 far).reverse ++ further ++
          bitsFrom fuel ((passed.reverse ++ before).take 2000) ((c :: rest).drop length)

/-- A packed text. -/
def deflated (t : Text) : Text :=
  ofBits (lowBits 3 3 ++ bitsFrom t.length [] t ++ usualWord 256)

/-! ### Files -/

/-- A program that packs: what its files begin with, and how their names end. -/
structure Packer where
  start : Text
  suffix : Text

/-- The usual packer. -/
def usual : Packer := ⟨[Char.ofNat 0x1f, Char.ofNat 0x8b, Char.ofNat 8], ".gz".toList⟩

/-- A packer that packs more closely. -/
def blockwise : Packer := ⟨"BZh9".toList, ".bz2".toList⟩

/-- A packer that packs most closely. -/
def chained : Packer := ⟨[Char.ofNat 0xfd, '7', 'z', 'X', 'Z', '\x00'], ".xz".toList⟩

/-- The bytes of a number of 32 bits. -/
def word32 (n : Nat) : Text := (Digest.lowFirst 4 n).map Char.ofNat

/-- A packed file. -/
def packed (p : Packer) (name t : Text) : Text :=
  let hasName := !name.isEmpty
  p.start ++ [if hasName then Char.ofNat 8 else '\x00'] ++ word32 0 ++ ['\x00', Char.ofNat 3] ++
    (if hasName then name ++ ['\x00'] else []) ++ deflated t ++ word32 (Digest.crcTurned t) ++
    word32 t.length

/-- Why a text cannot be unpacked. -/
inductive PackFault
  | noFormat
  | unexpectedEnd
  | broken

/-- The wording of a fault. -/
def PackFault.message : PackFault → Text
  | .noFormat => "not in gzip format".toList
  | .unexpectedEnd => "unexpected end of file".toList
  | .broken => "invalid compressed data--format violated".toList

/-- What a packed file holds, with all that have been put behind it. -/
def unpacked? (p : Packer) : Nat → Text → Except PackFault Text
  | 0, _ => .ok []
  | fuel + 1, t =>
      if t.length < p.start.length then
        .error (if t.isPrefixOf p.start then .unexpectedEnd else
          if t.length < 2 then .unexpectedEnd else .noFormat)
      else if !p.start.isPrefixOf t then .error .noFormat
      else
        let rest := t.drop p.start.length
        let flags := (rest.head?.map Char.toNat).getD 0
        let rest := rest.drop 7
        let rest := if flags / 4 % 2 = 1 then
            rest.drop (2 + (rest[0]?.elim 0 Char.toNat) + 256 * (rest[1]?.elim 0 Char.toNat))
          else rest
        let pastName (rest : Text) : Text := (rest.dropWhile (· != '\x00')).drop 1
        let rest := if flags / 8 % 2 = 1 then pastName rest else rest
        let rest := if flags / 16 % 2 = 1 then pastName rest else rest
        let rest := if flags / 2 % 2 = 1 then rest.drop 2 else rest
        match inflated? (rest.length + 1) ⟨#[], bitsOf rest⟩ with
        | none => .error .unexpectedEnd
        | some u =>
            let text := u.text.toList
            let after := ofBits (u.bits.drop (u.bits.length % 8))
            if after.length < 8 then .error .unexpectedEnd
            else if after.take 4 ≠ word32 (Digest.crcTurned text) then .error .broken
            else
              let next := after.drop 8
              if p.start.isPrefixOf next then
                match unpacked? p fuel next with
                | .ok more => .ok (text ++ more)
                | .error fault => .error fault
              else .ok text

/-- The name of what a packed file holds, if its name tells that it is one. -/
def plainName? (suffixes : List Text) (path : Text) : Option Text :=
  (suffixes.find? fun e => e.isSuffixOf path && e.length < (baseName path).length).map fun e =>
    path.take (path.length - e.length) ++ (if e = ".tgz".toList then ".tar".toList else [])

/-- Where a file is put: it must not be there yet, unless that is allowed. -/
def saveNew? (allowed : Bool) (path t : Text) (s : State) : Option State :=
  if s.has path && !allowed then none else (s.writeAt path t .write).toOption

/-- The status of a program that goes on after a failure: an error counts more than a warning. -/
def worse (a b : Int) : Int := if a = 1 || b = 1 then 1 else max a b

/-- Packs files or unpacks them. -/
def packFiles (p : Packer) (who : String) (unpacks shows : Bool) : Tool :=
  optioned who "0123456789cdefhklLmMnNqrsS:tvzVC:T:F:" ["stdout=c", "to-stdout=c", "decompress=d",
    "uncompress=d", "compress=z", "force=f", "keep=k", "list=l", "no-name=n", "name=N", "quiet=q",
    "recursive=r", "suffix=S", "test=t", "verbose=v", "fast=1", "best=9", "small=s", "extreme=e",
    "rsyncable", "synchronous", "threads=T", "format=F", "check=C", "license=L"] 1 fun g s =>
  let whoText := who.toList
  let unpacks := (unpacks || g.has 'd') && !g.has 'z'
  let tests := g.has 't'
  let lists := g.has 'l'
  let shows := shows || g.has 'c'
  let suffix := ((g.value? 'S').map fun t => if t.head? = some '.' then t
      else '.' :: t).getD p.suffix
  let suffixes := [suffix, ".tgz".toList]
  let force := g.has 'f'
  let worsen (n : Int) (before : State) (after : State) : State :=
    after.withStatus (worse before.status n)
  let complain (n : Int) (t : Text) (s : State) : State := worsen n s (s.complain n whoText t)
  let unpackedOr (t : Text) : Except PackFault Text := unpacked? p (t.length + 1) t
  let fromInput (s : State) : State :=
    let (s, t) := s.readAll
    if unpacks || tests || lists then
      match unpackedOr t with
      | .ok out => if tests || lists then s else s.put out
      | .error fault =>
          if shows && force && !tests then s.put t
          else complain 1 ("stdin: ".toList ++ fault.message) s
    else s.put (packed p [] t)
  let rec each : Nat → Text → State → State
    | 0, _, s => s
    | fuel + 1, path, s =>
        if path = ['-'] then fromInput s
        else
          let doesUnpack := unpacks || tests || lists
          let chosen : Except Fault (Text × Nat) := match s.inodeAt true path with
            | .ok n => .ok (path, n)
            | .error fault =>
                if doesUnpack && (plainName? suffixes path).isNone then
                  (s.inodeAt true (path ++ suffix)).map fun n => (path ++ suffix, n)
                else .error fault
          match chosen with
          | .error fault =>
              complain 1 ((if doesUnpack && (plainName? suffixes path).isNone then path ++ suffix
                else path) ++ ": ".toList ++ fault.message) s
          | .ok (path, n) =>
              if s.world.store.isDirectory n then
                if g.has 'r' then
                  (s.world.store.names n).foldl (fun s name => each fuel (under path name) s) s
                else complain 2 (path ++ " is a directory -- ignored".toList) s
              else
                let t := s.world.fileText n
                let isLink := match (s.inodeAt false path).toOption.map s.world.store.content with
                  | some (.link _) => true
                  | _ => false
                let time := (s.world.store.inode n).modified
                let finish (target out : Text) (s : State) : State :=
                  match saveNew? force target out s with
                  | none => complain 2 (target ++ " already exists;\tnot overwritten".toList) s
                  | some s =>
                      let s := match s.inodeAt true target with
                        | .ok m => s.changeInode m fun file => { file with modified := time }
                        | .error _ => s
                      if g.has 'k' then s else worsen s.status s (unlink [path] s)
                if doesUnpack then
                  match unpackedOr t with
                  | .error fault =>
                      let isNamed := (plainName? suffixes path).isSome
                      if shows && force && !tests then s.put t
                      else if !shows && !tests && !lists && !isNamed then
                        complain 2 (path ++ ": unknown suffix -- ignored".toList) s
                      else complain 1 (path ++ ": ".toList ++ fault.message) s
                  | .ok out =>
                      if tests then s
                      else if lists then
                        s.put (rightIn 19 (Text.ofNat t.length) ++
                          rightIn 20 (Text.ofNat out.length) ++ ' ' :: path ++ ['\n'])
                      else if shows then s.put out
                      else
                        match plainName? suffixes path with
                        | none => complain 2 (path ++ ": unknown suffix -- ignored".toList) s
                        | some target => finish target out s
                else if shows then s.put (packed p (baseName path) t)
                else if (plainName? suffixes path).isSome && !force then
                  complain 2 (path ++ " already has ".toList ++ suffix ++
                    " suffix -- unchanged".toList) s
                else if isLink && !force then
                  complain 2 (path ++ " is not a regular file -- ignored".toList) s
                else finish (path ++ suffix) (packed p (baseName path) t) s
  if g.has 'h' then s.write "Usage: gzip [OPTION]... [FILE]...\n".toList
  else if g.has 'V' || g.has 'L' then s.write "gzip 1.12\n".toList
  else if g.operands.isEmpty then fromInput s
  else g.operands.foldl (fun s path => if s.isStopped then s else each 100 path s) s

/-- Searches in packed files. -/
def searchPacked : Tool := fun words s =>
  match Given.ofWords searchOptions words with
  | .error message => s.complain 2 "grep".toList message
  | .ok g =>
      let files := if g.has 'e' || g.has 'f' then g.operands else g.operands.drop 1
      let (s, t) := if files.isEmpty then s.readAll
        else files.foldl (fun (s, t) path =>
          match s.textAt path with
          | .ok (s, more) => (s, t ++ (match unpacked? usual (more.length + 1) more with
              | .ok out => out
              | .error _ => more))
          | .error fault => (s.complain 2 "gzip".toList (path ++ ": ".toList ++ fault.message), t))
          (s.withStatus 0, [])
      if s.status ≠ 0 then s
      else
        let kept := words.filter fun w => !files.contains w
        let inner := search "grep" none false kept (s.offer 0 t)
        { inner with streams := s.streams }

end Packed

/-- What has been packed can be unpacked. -/
example : (Packed.inflated? 3 ⟨#[], Packed.bitsOf (Packed.deflated "abcabcabcd".toList)⟩).map
    (·.text.toList) =
    some "abcabcabcd".toList := by decide +kernel

end KeyMenu.Sh
