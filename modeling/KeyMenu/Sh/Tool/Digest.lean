import KeyMenu.Sh.Decimal
import KeyMenu.Sh.Tool.Look

/-!
# Digests and spellings of bytes

A digest is a number that stands for all bytes of a text. A text is padded to whole blocks
(`blocksOf`), and each block changes a state: `Digest.md5`, `Digest.sha1`, `Digest.sha256`,
`Digest.sha512`, `Digest.blake2`; or each byte changes a remainder (`Digest.crc`). Constants are
made as the standards define them, from roots of primes. The bytes of a text may also be spelled by
letters that everybody can pass on (`Spelling`).
-/

namespace KeyMenu.Sh

namespace Digest

/-! ### Blocks -/

/-- The bytes of a number, so many of them, the lowest one first. -/
def lowFirst (count n : Nat) : List Nat := (List.range count).map fun i => n / Nat.pow 256 i % 256

/-- The bytes of a number, so many of them, the highest one first. -/
def highFirst (count n : Nat) : List Nat := (lowFirst count n).reverse

/-- The number whose bytes are given, the highest one first. -/
def ofHighFirst (bytes : List Nat) : Nat := bytes.foldl (fun n b => 256 * n + b) 0

/-- Lists of so many elements, as many as there are. -/
def groupsOf {α : Type} (size : Nat) : Nat → List α → List (List α)
  | 0, _ => []
  | fuel + 1, l => if l.isEmpty then [] else l.take size :: groupsOf size fuel (l.drop size)

/-- The bytes of a text, one bit that is set, zeros up to a whole number of blocks, and the number
of bits. -/
def padded (block lengthBytes : Nat) (isLowFirst : Bool) (t : Text) : List Nat :=
  let n := t.length
  let zeros := (block - (n + 1 + lengthBytes) % block) % block
  let length := if isLowFirst then lowFirst lengthBytes (8 * n) else highFirst lengthBytes (8 * n)
  t.map Char.toNat ++ 0x80 :: List.replicate zeros 0 ++ length

/-- The words of blocks: so many words of so many bytes in each. -/
def blocksOf (wordBytes words : Nat) (isLowFirst : Bool) (bytes : List Nat) : List (Array Nat) :=
  let all := (groupsOf wordBytes bytes.length bytes).map fun group =>
    ofHighFirst (if isLowFirst then group.reverse else group)
  (groupsOf words all.length all).map List.toArray

/-- The word at a place. -/
def word (block : Array Nat) (n : Nat) : Nat := (block[n]?).getD 0

/-- Numbers as digits in base sixteen, so many for each. -/
def hexadecimal (digits : Nat) (numbers : List Nat) : Text :=
  numbers.flatMap fun n =>
    let t := inBase 16 n
    List.replicate (digits - t.length) '0' ++ t

/-- A word of 32 bits turned to the left. -/
def turned (x : UInt32) (n : UInt32) : UInt32 := (x <<< n) ||| (x >>> (32 - n))

/-- A word of 64 bits turned to the right. -/
def turnedBack (x : UInt64) (n : UInt64) : UInt64 := (x >>> n) ||| (x <<< (64 - n))

/-! ### Roots -/

/-- The first primes, so many of them. -/
def primes (count : Nat) : List Nat :=
  let isPrime (n : Nat) : Bool := (List.range n).all fun d => d < 2 || n % d != 0
  (((List.range 420).filter fun n => 2 ≤ n && isPrime n)).take count

/-- The greatest number below a power of two whose power of an exponent is not above a number. -/
def root (exponent n : Nat) : Nat → Nat → Nat
  | 0, found => found
  | bit + 1, found =>
      let next := found + twoTo bit
      root exponent n bit (if Nat.pow next exponent ≤ n then next else found)

/-- The first bits behind the point of a root of a number. -/
def rootBits (exponent bits n : Nat) : Nat :=
  root exponent (n * twoTo (exponent * bits)) (bits + 6) 0 % twoTo bits

/-! ### The digests -/

/-- The constants of the rounds: the sines of the numbers from one on. -/
def sines : Array UInt32 :=
  #[
    0xd76aa478, 0xe8c7b756, 0x242070db, 0xc1bdceee, 0xf57c0faf, 0x4787c62a, 0xa8304613, 0xfd469501,
    0x698098d8, 0x8b44f7af, 0xffff5bb1, 0x895cd7be, 0x6b901122, 0xfd987193, 0xa679438e, 0x49b40821,
    0xf61e2562, 0xc040b340, 0x265e5a51, 0xe9b6c7aa, 0xd62f105d, 0x02441453, 0xd8a1e681, 0xe7d3fbc8,
    0x21e1cde6, 0xc33707d6, 0xf4d50d87, 0x455a14ed, 0xa9e3e905, 0xfcefa3f8, 0x676f02d9, 0x8d2a4c8a,
    0xfffa3942, 0x8771f681, 0x6d9d6122, 0xfde5380c, 0xa4beea44, 0x4bdecfa9, 0xf6bb4b60, 0xbebfbc70,
    0x289b7ec6, 0xeaa127fa, 0xd4ef3085, 0x04881d05, 0xd9d4d039, 0xe6db99e5, 0x1fa27cf8, 0xc4ac5665,
    0xf4292244, 0x432aff97, 0xab9423a7, 0xfc93a039, 0x655b59c3, 0x8f0ccc92, 0xffeff47d, 0x85845dd1,
    0x6fa87e4f, 0xfe2ce6e0, 0xa3014314, 0x4e0811a1, 0xf7537e82, 0xbd3af235, 0x2ad7d2bb, 0xeb86d391]

/-- By how much words are turned in the rounds. -/
def md5Turns : List (List UInt32) :=
  [[7, 12, 17, 22], [5, 9, 14, 20], [4, 11, 16, 23], [6, 10, 15, 21]]

/-- Four words that a block changes. -/
structure Four where
  a : UInt32
  b : UInt32
  c : UInt32
  d : UInt32

/-- A block changes four words. -/
def md5Block (s : Four) (block : Array Nat) : Four :=
  let t := (List.range 64).foldl (fun s i =>
    let (f, place) : UInt32 × Nat := match i / 16 with
      | 0 => ((s.b &&& s.c) ||| (~~~s.b &&& s.d), i)
      | 1 => ((s.d &&& s.b) ||| (~~~s.d &&& s.c), (5 * i + 1) % 16)
      | 2 => (s.b ^^^ s.c ^^^ s.d, (3 * i + 5) % 16)
      | _ => (s.c ^^^ (s.b ||| ~~~s.d), 7 * i % 16)
    let sum := s.a + f + (sines[i]?).getD 0 + UInt32.ofNat (word block place)
    let by' := (((md5Turns[i / 16]?).getD [])[i % 4]?).getD 0
    ⟨s.d, s.b + turned sum by', s.b, s.c⟩) s
  ⟨s.a + t.a, s.b + t.b, s.c + t.c, s.d + t.d⟩

/-- The digest of 128 bits. -/
def md5 (t : Text) : Text :=
  let s := (blocksOf 4 16 true (padded 64 8 true t)).foldl md5Block
    ⟨0x67452301, 0xefcdab89, 0x98badcfe, 0x10325476⟩
  hexadecimal 2 ([s.a, s.b, s.c, s.d].flatMap fun x => lowFirst 4 x.toNat)

/-- The words of a block, continued by a rule to so many words. -/
def extended (count : Nat) (next : Array Nat → Nat → Nat) (block : Array Nat) : Array Nat :=
  (List.range (count - 16)).foldl (fun words i => words.push (next words (16 + i))) block

/-- A block changes five words. -/
def sha1Block (s : List UInt32) (block : Array Nat) : List UInt32 :=
  let words := extended 80 (fun w i =>
    (turned (UInt32.ofNat (word w (i - 3)) ^^^ UInt32.ofNat (word w (i - 8)) ^^^
      UInt32.ofNat (word w (i - 14)) ^^^ UInt32.ofNat (word w (i - 16))) 1).toNat) block
  let after := (List.range 80).foldl (fun s i =>
    match s with
    | [a, b, c, d, e] =>
        let (f, k) : UInt32 × UInt32 := match i / 20 with
          | 0 => ((b &&& c) ||| (~~~b &&& d), 0x5a827999)
          | 1 => (b ^^^ c ^^^ d, 0x6ed9eba1)
          | 2 => ((b &&& c) ||| (b &&& d) ||| (c &&& d), 0x8f1bbcdc)
          | _ => (b ^^^ c ^^^ d, 0xca62c1d6)
        [turned a 5 + f + e + k + UInt32.ofNat (word words i), a, turned b 30, c, d]
    | s => s) s
  (s.zip after).map fun (x, y) => x + y

/-- The digest of 160 bits. -/
def sha1 (t : Text) : Text :=
  let s := (blocksOf 4 16 false (padded 64 8 false t)).foldl sha1Block
    [0x67452301, 0xefcdab89, 0x98badcfe, 0x10325476, 0xc3d2e1f0]
  hexadecimal 8 (s.map UInt32.toNat)

/-- The constants of 32 bits. -/
def cubes32 : Array UInt32 := ((primes 64).map fun p => UInt32.ofNat (rootBits 3 32 p)).toArray

/-- The constants of 64 bits. -/
def cubes64 : Array UInt64 := ((primes 80).map fun p => UInt64.ofNat (rootBits 3 64 p)).toArray

/-- A block changes eight words of 32 bits. -/
def sha256Block (s : List UInt32) (block : Array Nat) : List UInt32 :=
  let back (x : UInt32) (n : UInt32) : UInt32 := turned x (32 - n)
  let words := extended 64 (fun w i =>
    let x := UInt32.ofNat (word w (i - 15))
    let y := UInt32.ofNat (word w (i - 2))
    (UInt32.ofNat (word w (i - 16)) + (back x 7 ^^^ back x 18 ^^^ (x >>> 3)) +
      UInt32.ofNat (word w (i - 7)) + (back y 17 ^^^ back y 19 ^^^ (y >>> 10))).toNat) block
  let after := (List.range 64).foldl (fun s i =>
    match s with
    | [a, b, c, d, e, f, g, h] =>
        let t := h + (back e 6 ^^^ back e 11 ^^^ back e 25) + ((e &&& f) ^^^ (~~~e &&& g)) +
          (cubes32[i]?).getD 0 + UInt32.ofNat (word words i)
        let u := (back a 2 ^^^ back a 13 ^^^ back a 22) +
          ((a &&& b) ^^^ (a &&& c) ^^^ (b &&& c))
        [t + u, a, b, c, d + t, e, f, g]
    | s => s) s
  (s.zip after).map fun (x, y) => x + y

/-- The digest of 256 bits, or, for who begins with other words, the first 224 bits of another
one. -/
def sha256 (isShort : Bool) (t : Text) : Text :=
  let start := if isShort then ((primes 16).drop 8).map fun p => rootBits 2 64 p % twoTo 32
    else (primes 8).map (rootBits 2 32)
  let s := (blocksOf 4 16 false (padded 64 8 false t)).foldl sha256Block (start.map UInt32.ofNat)
  hexadecimal 8 ((s.map UInt32.toNat).take (if isShort then 7 else 8))

/-- A block changes eight words of 64 bits. -/
def sha512Block (s : List UInt64) (block : Array Nat) : List UInt64 :=
  let back := turnedBack
  let words := extended 80 (fun w i =>
    let x := UInt64.ofNat (word w (i - 15))
    let y := UInt64.ofNat (word w (i - 2))
    (UInt64.ofNat (word w (i - 16)) + (back x 1 ^^^ back x 8 ^^^ (x >>> 7)) +
      UInt64.ofNat (word w (i - 7)) + (back y 19 ^^^ back y 61 ^^^ (y >>> 6))).toNat) block
  let after := (List.range 80).foldl (fun s i =>
    match s with
    | [a, b, c, d, e, f, g, h] =>
        let t := h + (back e 14 ^^^ back e 18 ^^^ back e 41) + ((e &&& f) ^^^ (~~~e &&& g)) +
          (cubes64[i]?).getD 0 + UInt64.ofNat (word words i)
        let u := (back a 28 ^^^ back a 34 ^^^ back a 39) +
          ((a &&& b) ^^^ (a &&& c) ^^^ (b &&& c))
        [t + u, a, b, c, d + t, e, f, g]
    | s => s) s
  (s.zip after).map fun (x, y) => x + y

/-- The digest of 512 bits, or, for who begins with other words, the first 384 bits of another
one. -/
def sha512 (isShort : Bool) (t : Text) : Text :=
  let chosen := if isShort then (primes 16).drop 8 else primes 8
  let s := (blocksOf 8 16 false (padded 128 16 false t)).foldl sha512Block
    (chosen.map fun p => UInt64.ofNat (rootBits 2 64 p))
  hexadecimal 16 ((s.map UInt64.toNat).take (if isShort then 6 else 8))

/-- The orders in which the words of a block are taken. -/
def blakeOrders : List (List Nat) :=
  [[0, 1, 2, 3, 4, 5, 6, 7, 8, 9, 10, 11, 12, 13, 14, 15],
    [14, 10, 4, 8, 9, 15, 13, 6, 1, 12, 0, 2, 11, 7, 5, 3],
    [11, 8, 12, 0, 5, 2, 15, 13, 10, 14, 3, 6, 7, 1, 9, 4],
    [7, 9, 3, 1, 13, 12, 11, 14, 2, 6, 5, 10, 4, 0, 15, 8],
    [9, 0, 5, 7, 2, 4, 10, 15, 14, 1, 11, 12, 6, 8, 3, 13],
    [2, 12, 6, 10, 0, 11, 8, 3, 4, 13, 7, 5, 15, 14, 1, 9],
    [12, 5, 1, 15, 14, 13, 4, 10, 0, 7, 6, 3, 9, 2, 8, 11],
    [13, 11, 7, 14, 12, 1, 3, 9, 5, 0, 15, 4, 8, 6, 2, 10],
    [6, 15, 14, 9, 11, 3, 0, 8, 12, 2, 13, 7, 1, 4, 10, 5],
    [10, 2, 8, 4, 7, 6, 1, 5, 15, 11, 9, 14, 3, 12, 13, 0]]

/-- The words that are mixed with each other in a round. -/
def blakeMixes : List (Nat × Nat × Nat × Nat) :=
  [(0, 4, 8, 12), (1, 5, 9, 13), (2, 6, 10, 14), (3, 7, 11, 15),
    (0, 5, 10, 15), (1, 6, 11, 12), (2, 7, 8, 13), (3, 4, 9, 14)]

/-- The words with which digests of 64 bits begin. -/
def squares64 : List UInt64 := (primes 8).map fun p => UInt64.ofNat (rootBits 2 64 p)

/-- A block changes eight words; so many bytes have been read, and it may be the last one. -/
def blakeBlock (s : List UInt64) (block : Array Nat) (count : Nat) (isLast : Bool) : List UInt64 :=
  let v := (s ++ squares64).toArray
  let v := (v.modify 12 (· ^^^ UInt64.ofNat count))
  let v := if isLast then v.modify 14 (~~~·) else v
  let at' (v : Array UInt64) (n : Nat) : UInt64 := (v[n]?).getD 0
  let after := (List.range 12).foldl (fun v round =>
    let order := (blakeOrders[round % 10]?).getD []
    (blakeMixes.zipIdx).foldl (fun v ((a, b, c, d), n) =>
      let x := UInt64.ofNat (word block ((order[2 * n]?).getD 0))
      let y := UInt64.ofNat (word block ((order[2 * n + 1]?).getD 0))
      let va := at' v a + at' v b + x
      let vd := turnedBack (at' v d ^^^ va) 32
      let vc := at' v c + vd
      let vb := turnedBack (at' v b ^^^ vc) 24
      let va := va + vb + y
      let vd := turnedBack (vd ^^^ va) 16
      let vc := vc + vd
      let vb := turnedBack (vb ^^^ vc) 63
      (((v.setIfInBounds a va).setIfInBounds b vb).setIfInBounds c vc).setIfInBounds d vd) v) v
  (s.zipIdx).map fun (x, n) => x ^^^ at' after n ^^^ at' after (n + 8)

/-- The digest of so many bytes, sixty-four at most. -/
def blake2 (size : Nat) (t : Text) : Text :=
  let bytes := t.map Char.toNat
  let blocks := if bytes.isEmpty then [[]] else groupsOf 128 bytes.length bytes
  let start := (squares64.zipIdx).map fun (x, n) =>
    if n = 0 then x ^^^ UInt64.ofNat (0x01010000 + size) else x
  let (s, _) := (blocks.zipIdx).foldl (fun (s, count) (block, n) =>
    let count := count + block.length
    let whole := block ++ List.replicate (128 - block.length) 0
    let words := ((blocksOf 8 16 true whole).head?).getD #[]
    (blakeBlock s words count (n + 1 = blocks.length), count)) (start, 0)
  hexadecimal 2 ((s.flatMap fun x => lowFirst 8 x.toNat).take size)

/-! ### Remainders -/

/-- The remainder of 32 bits after one more byte, the highest bit first. -/
def crcStep (r : UInt32) (b : Nat) : UInt32 :=
  (List.range 8).foldl (fun r _ =>
    if r &&& 0x80000000 ≠ 0 then (r <<< 1) ^^^ 0x04c11db7 else r <<< 1)
    (r ^^^ (UInt32.ofNat b <<< 24))

/-- The remainder of a text and its length. -/
def crc (t : Text) : Nat :=
  let n := t.length
  let length := (List.range 8).map fun i => n / Nat.pow 256 i
  let bytes := (length.takeWhile (0 < ·)).map (· % 256)
  (~~~((t.map Char.toNat ++ bytes).foldl crcStep 0)).toNat

/-- The remainder of 32 bits, the lowest bit first. -/
def crcTurned (t : Text) : Nat :=
  (~~~(t.foldl (fun (r : UInt32) c =>
    (List.range 8).foldl (fun r _ =>
      if r &&& 1 ≠ 0 then (r >>> 1) ^^^ 0xedb88320 else r >>> 1)
      (r ^^^ UInt32.ofNat c.toNat)) 0xffffffff)).toNat

/-- The sum of the bytes, turned before each one. -/
def turnedSum (t : Text) : Nat :=
  t.foldl (fun n c => (n / 2 + n % 2 * 32768 + c.toNat) % 65536) 0

/-- The sum of the bytes, folded to sixteen bits. -/
def foldedSum (t : Text) : Nat :=
  let n := t.foldl (fun n c => n + c.toNat) 0
  let r := n % 65536 + n / 65536
  r % 65536 + r / 65536

/-- The digests by the names of their kinds. -/
def kind? (name : Text) : Option (String × (Text → Text)) :=
  match String.ofList name with
  | "md5" => some ("MD5", md5)
  | "sha1" => some ("SHA1", sha1)
  | "sha224" => some ("SHA224", sha256 true)
  | "sha256" => some ("SHA256", sha256 false)
  | "sha384" => some ("SHA384", sha512 true)
  | "sha512" => some ("SHA512", sha512 false)
  | "blake2b" => some ("BLAKE2b", blake2 64)
  | _ => none

end Digest

/-! ### Programs for digests -/

/-- The digest and the name of a file in a line of a list. -/
def digestLine? (length : Nat) (tag line : Text) : Option (Text × Text) :=
  let isDigest (t : Text) : Bool := t.length = length && t.all fun c => digitValue c < 16
  let lowered (t : Text) : Text := t.map Char.toLower
  let tagged := tag ++ " (".toList
  if tagged.isPrefixOf line then
    (Text.splitFirst ") = ".toList (line.drop tagged.length)).bind fun (name, digest) =>
      if isDigest digest then some (lowered digest, name) else none
  else
    let digest := line.take length
    match line.drop length with
    | ' ' :: c :: name => if isDigest digest && !name.isEmpty && (c = ' ' || c = '*') then
        some (lowered digest, name) else none
    | _ => none

/-- Compares the digests in lists of them. -/
def checkDigests (who : String) (g : Given) (tag : Text) (digest : Text → Text)
    (s : State) : State :=
  let length := (digest []).length
  let (s, texts) := s.gather who 1 g.operands
  texts.foldl (fun s (_, t) =>
    let lines := textLines t
    let read := lines.filterMap (digestLine? length tag)
    if read.isEmpty then
      s.complain 1 who.toList "no properly formatted checksum lines found".toList
    else
      let (s, good) := read.foldl (fun (s, good) (wanted, name) =>
        let isQuiet := g.hasLong "status"
        match s.textAt name with
        | .ok (s, t) =>
            if digest t = wanted then
              ((if isQuiet || g.hasLong "quiet" then s
                else s.put (name ++ ": OK\n".toList)), good + 1)
            else
              ((if isQuiet then s else s.put (name ++ ": FAILED\n".toList)).withStatus 1, good)
        | .error fault =>
            if g.hasLong "ignore-missing" && fault = .notFound then (s, good)
            else
              let s := s.complain 1 who.toList (name ++ ": ".toList ++ fault.message)
              ((if isQuiet then s else
                s.put (name ++ ": FAILED open or read\n".toList)).withStatus 1,
                good)) (s, 0)
      let isStrict := g.hasLong "strict" && read.length < lines.length
      if isStrict then s.withStatus 1
      else if good = 0 && s.status = 0 then
        s.complain 1 who.toList "no file was verified".toList
      else s) s

/-- Shows or compares the digests of files. -/
def digestFiles (who kind : String) : Tool := optioned who "a:bcl:tuwz" ["algorithm=a", "binary=b",
    "check=c", "length=l", "tag", "untagged", "text=t", "zero=z", "ignore-missing",
      "quiet", "status",
    "strict", "warn=w", "raw", "base64", "debug"] 1 fun g s =>
  let isGeneral := kind.isEmpty
  let name := if isGeneral then (g.value? 'a').getD "crc".toList else kind.toList
  let bits := (g.value? 'l').map digitsValue
  let digest? := match Digest.kind? name, bits with
    | some (tag, digest), some n =>
        if name = "blake2b".toList && n % 8 = 0 && n ≤ 512 then
          some (if n = 0 then tag.toList else tag.toList ++ '-' :: Text.ofNat n,
            if n = 0 then digest else Digest.blake2 (n / 8))
        else none
    | some (tag, digest), none => some (tag.toList, digest)
    | none, _ => none
  let sum? : Option (Text → Text) := match String.ofList name with
    | "crc" => some fun t => Text.ofNat (Digest.crc t) ++ ' ' :: Text.ofNat t.length
    | "bsd" => some fun t => inWidth 5 (Digest.turnedSum t) ++
        ' ' :: rightIn 5 (Text.ofNat ((t.length + 1023) / 1024))
    | "sysv" => some fun t => Text.ofNat (Digest.foldedSum t) ++
        ' ' :: Text.ofNat ((t.length + 511) / 512)
    | _ => none
  match digest?, if isGeneral then sum? else none with
  | some (tag, digest), _ =>
      if g.has 'c' then checkDigests who g tag digest s
      else
        let (s, texts) := s.gather who 1 g.operands
        let limit := if g.has 'z' then '\x00' else '\n'
        let isTagged := g.hasLong "tag" || (isGeneral && !g.hasLong "untagged")
        s.put (texts.flatMap fun (name, t) =>
          (if isTagged then tag ++ " (".toList ++ name ++ ") = ".toList ++ digest t
            else digest t ++ ' ' :: (if g.has 'b' then '*' else ' ') :: name) ++ [limit])
  | none, some sum =>
      if g.has 'c' then
        let (s, texts) := s.gather who 1 g.operands
        let tags := ["MD5", "SHA1", "SHA224", "SHA256", "SHA384", "SHA512", "BLAKE2b"]
        let lines := texts.flatMap fun (_, t) => textLines t
        let known := lines.filterMap fun line => tags.find? fun tag =>
          (tag.toList ++ " (".toList).isPrefixOf line
        match known.head? with
        | some tag =>
            match Digest.kind? (tag.toList.map Char.toLower) with
            | some (tag, digest) => checkDigests who g tag.toList digest s
            | none => s.withStatus 1
        | none =>
            if s.status ≠ 0 then s
            else s.complain 1 who.toList "no properly formatted checksum lines found".toList
      else
        let (s, texts) := s.gather who 1 g.operands
        s.put (texts.flatMap fun (name, t) =>
          sum t ++ (if g.operands.isEmpty then [] else ' ' :: name) ++ ['\n'])
  | none, none => s.complain 1 who.toList "invalid argument for \x27--algorithm\x27".toList

/-- Shows the sums of files. -/
def sumFiles : Tool := optioned "sum" "rs" ["sysv=s"] 1 fun g s =>
  let words := ['-', 'a'] :: (if g.last? "rs" = some 's' then "sysv".toList else "bsd".toList) ::
    ['-', '-'] :: g.operands
  digestFiles "sum" "" words s

/-! ### Spellings -/

/-- How bytes are spelled: the signs that stand for groups of bits, and how many bits each one
stands for, and the sign that fills up. -/
structure Spelling where
  signs : Text
  bits : Nat
  filler : Option Char

namespace Spelling

/-- By sixty-four signs. -/
def base64 : Spelling :=
  ⟨"ABCDEFGHIJKLMNOPQRSTUVWXYZabcdefghijklmnopqrstuvwxyz0123456789+/".toList, 6, some '='⟩

/-- By sixty-four signs that may stand in addresses. -/
def base64Address : Spelling :=
  ⟨"ABCDEFGHIJKLMNOPQRSTUVWXYZabcdefghijklmnopqrstuvwxyz0123456789-_".toList, 6, some '='⟩

/-- By thirty-two signs. -/
def base32 : Spelling := ⟨"ABCDEFGHIJKLMNOPQRSTUVWXYZ234567".toList, 5, some '='⟩

/-- By thirty-two signs that keep the order. -/
def base32Ordered : Spelling := ⟨"0123456789ABCDEFGHIJKLMNOPQRSTUV".toList, 5, some '='⟩

/-- By sixteen signs. -/
def base16 : Spelling := ⟨"0123456789ABCDEF".toList, 4, none⟩

/-- By single bits. -/
def base2 : Spelling := ⟨"01".toList, 1, none⟩

/-- So many bytes give a whole number of signs. -/
def group (p : Spelling) : Nat := match p.bits with
  | 6 => 3
  | 5 => 5
  | _ => 1

/-- So many signs make a group. -/
def signCount (p : Spelling) : Nat := 8 * p.group / p.bits

/-- The signs of a group of bytes, which may lack some at the end. -/
def encodeGroup (p : Spelling) (bytes : List Nat) : Text :=
  let n := Digest.ofHighFirst (bytes ++ List.replicate (p.group - bytes.length) 0)
  let used := (8 * bytes.length + p.bits - 1) / p.bits
  (List.range p.signCount).map fun i =>
    if i < used then
      let digit := n / Nat.pow (twoTo p.bits) (p.signCount - 1 - i) % twoTo p.bits
      (p.signs[digit]?).getD ' '
    else p.filler.getD ' '

/-- The signs of a text. -/
def encode (p : Spelling) (t : Text) : Text :=
  (Digest.groupsOf p.group t.length (t.map Char.toNat)).flatMap p.encodeGroup

/-- The bytes of a group of signs, and whether it is a whole one. -/
def decodeGroup (p : Spelling) (t : Text) : Text × Bool :=
  let digits := t.takeWhile fun c => p.signs.contains c
  let rest := t.drop digits.length
  let n := digits.foldl (fun n c => twoTo p.bits * n + ((p.signs.idxOf? c).getD 0)) 0
  let count := p.bits * digits.length / 8
  let whole := n / twoTo (p.bits * digits.length - 8 * count)
  let isWhole := t.length = p.signCount && rest.all (some · == p.filler) &&
    (rest.isEmpty || (0 < count && p.bits * digits.length - 8 * count < p.bits))
  ((Digest.highFirst count whole).map Char.ofNat, isWhole)

/-- The bytes that signs spell, and whether all is well; it ends at the first group that is not. -/
def decode (p : Spelling) : Nat → Text → Text × Bool
  | 0, _ => ([], true)
  | fuel + 1, t =>
      if t.isEmpty then ([], true)
      else
        let (first, isWhole) := p.decodeGroup (t.take p.signCount)
        if !isWhole then (first, false)
        else
          let (rest, isGood) := decode p fuel (t.drop p.signCount)
          (first ++ rest, isGood)

end Spelling

/-- Lines of so many signs. -/
def wrappedAt (width : Nat) (t : Text) : Text :=
  if width = 0 then t
  else (Digest.groupsOf width t.length t).flatMap (· ++ ['\n'])

/-- Spells bytes, or reads them. -/
def spellBytes (who : String) (usual : Option Spelling) : Tool := optioned who "diw:"
    ["decode=d", "ignore-garbage=i", "wrap=w", "base64", "base64url", "base32",
      "base32hex", "base16",
      "base2msbf", "base2lsbf"] 1 fun g s =>
  let chosen? : Option Spelling := match usual with
    | some p => some p
    | none =>
        ((g.options.filterMap fun (key, _) => match String.ofList key with
          | "base64" => some Spelling.base64
          | "base64url" => some .base64Address
          | "base32" => some .base32
          | "base32hex" => some .base32Ordered
          | "base16" => some .base16
          | "base2msbf" => some .base2
          | _ => none)).getLast?
  let width := (g.value? 'w').getD "76".toList
  match chosen? with
  | none => s.complain 1 who.toList "missing encoding type".toList
  | some p =>
      if !width.all Char.isDigit || width.isEmpty then
        s.complain 1 who.toList ("invalid wrap size: ".toList ++ inQuotes width)
      else if 1 < g.operands.length then s.complain 1 who.toList "extra operand".toList
      else
        let (s, t) := s.gatherAll who 1 g.operands
        if s.status ≠ 0 then s
        else if g.has 'd' then
          let isSign (c : Char) : Bool := p.signs.contains c || some c == p.filler
          let t := if g.has 'i' then t.filter isSign else t.filter (· != '\n')
          let (out, isGood) := p.decode (t.length + 1) t
          let s := s.put out
          if isGood then s else s.complain 1 who.toList "invalid input".toList
        else s.put (wrappedAt (digitsValue width) (p.encode t))

/-- What has been spelled can be read again. -/
example : Spelling.base64.decode 9 (Spelling.base64.encode "data\n".toList) =
    ("data\n".toList, true) := by decide +kernel

end KeyMenu.Sh
