import KeyMenu.Sh.Tool.Digest

/-!
# Encodings of texts

An `Encoding` says how code points are written as bytes.

* `Encoding.named?`: the encoding of a name;
* `Encoding.first`: the code point that bytes begin with;
* `Encoding.bytes?`: the bytes of a code point;
* `reencode`: the program that writes texts in another encoding.
-/

namespace KeyMenu.Sh

/-- How code points are written: those below a limit as single bytes, all as UTF-8, or all in units
of two or four bytes, perhaps behind a mark that tells the order of the bytes. -/
inductive Encoding
  | bytes (limit : Nat)
  | utf8
  | units (width : Nat) (isLowFirst isMarked : Bool)
  deriving DecidableEq

/-- What bytes begin with: a code point, something that is none, or the beginning of one that breaks
off. -/
inductive Encoding.First
  | letter (c : Char) (rest : Text)
  | illegal (rest : Text)
  | cut

namespace Encoding

/-- The names of encodings. -/
def names : List (List String × Encoding) :=
  [(["", "ASCII", "US-ASCII", "ANSI_X3.4-1968", "ISO646-US", "US", "646"], bytes 0x80),
    (["LATIN1", "ISO-8859-1", "ISO8859-1", "ISO_8859-1", "ISO88591", "L1", "CP819"], bytes 0x100),
    (["UTF-8", "UTF8"], utf8), (["UTF-16", "UTF16"], units 2 true true),
    (["UTF-16LE", "UTF16LE", "UCS-2", "UCS-2LE", "UCS2"], units 2 true false),
    (["UTF-16BE", "UTF16BE", "UCS-2BE", "UNICODEBIG"], units 2 false false),
    (["UTF-32", "UTF32"], units 4 true true),
    (["UTF-32LE", "UTF32LE", "UCS-4LE"], units 4 true false),
    (["UTF-32BE", "UTF32BE", "UCS-4", "UCS-4BE", "UCS4"], units 4 false false)]

/-- The encoding of a name, in capitals or not; what stands behind two slashes is no part of it. -/
def named? (t : Text) : Option Encoding :=
  let name := (Text.splitFirst "//".toList t).elim t Prod.fst |>.map Char.toUpper
  (names.find? fun (names, _) => names.any (·.toList == name)).map Prod.snd

/-- The number that bytes stand for. -/
def number (isLowFirst : Bool) (t : Text) : Nat :=
  Digest.ofHighFirst ((if isLowFirst then t.reverse else t).map Char.toNat)

/-- What bytes begin with. -/
def first : Encoding → Text → First
  | _, [] => .cut
  | bytes limit, c :: rest => if c.toNat < limit then .letter c rest else .illegal rest
  | utf8, c :: rest =>
      let group := (c :: rest).take (sequenceLength c)
      let isInner (c : Char) : Bool := 0x80 ≤ c.toNat && c.toNat < 0xc0
      match ofOctets? group with
      | some [letter] => .letter letter (rest.drop (group.length - 1))
      | _ =>
          if group.length < sequenceLength c && group.tail.all isInner then .cut
          else .illegal rest
  | units width isLowFirst _, t =>
      if t.length < width then .cut
      else
        let n := number isLowFirst (t.take width)
        let rest := t.drop width
        if width = 2 && 0xd800 ≤ n && n < 0xdc00 then
          if rest.length < 2 then .cut
          else
            let m := number isLowFirst (rest.take 2)
            if 0xdc00 ≤ m && m < 0xe000 then
              .letter (Char.ofNat (0x10000 + (n - 0xd800) * 0x400 + (m - 0xdc00))) (rest.drop 2)
            else .illegal rest
        else if n.isValidChar then .letter (Char.ofNat n) rest
        else .illegal rest

/-- The bytes of a code point, if it has any. -/
def bytes? (e : Encoding) (c : Char) : Option Text :=
  let n := c.toNat
  match e with
  | bytes limit => if n < limit then some [c] else none
  | utf8 => some (octets [c])
  | units width isLowFirst _ =>
      let spelled (n : Nat) : Text :=
        (if isLowFirst then Digest.lowFirst width n else Digest.highFirst width n).map Char.ofNat
      if width = 2 && 0x10000 ≤ n then
        some (spelled (0xd800 + (n - 0x10000) / 0x400) ++ spelled (0xdc00 + n % 0x400))
      else some (spelled n)

/-- The mark that tells the order of the bytes. -/
def mark (e : Encoding) : Text :=
  match e with
  | units _ _ true => (e.bytes? (Char.ofNat 0xfeff)).getD []
  | _ => []

/-- A mark in front tells the order of the bytes behind it. -/
def opened (e : Encoding) (t : Text) : Encoding × Text :=
  match e with
  | units width isLowFirst true =>
      let isMark (isLowFirst : Bool) : Bool := number isLowFirst (t.take width) == 0xfeff
      if isMark true then (units width true false, t.drop width)
      else if isMark false then (units width false false, t.drop width)
      else (units width isLowFirst false, t)
  | _ => (e, t)

end Encoding

/-- How a text goes from one encoding to another: what has no place in the other one is left out
where `isLax`, and gets a mark where `isReplaced`. -/
structure Reencoding where
  source : Encoding
  target : Encoding
  isLax : Bool
  isReplaced : Bool

/-- The bytes in the other encoding as far as they can be told, and why they end before. -/
def Reencoding.bytes (r : Reencoding) (e : Encoding) : Nat → Text → Text × Option String
  | 0, _ => ([], none)
  | _ + 1, [] => ([], none)
  | fuel + 1, t =>
      match e.first t with
      | .cut => ([], some "incomplete character or shift sequence at end of buffer")
      | .illegal rest =>
          if r.isLax then r.bytes e fuel rest else ([], some "cannot convert")
      | .letter c rest =>
          let found := (r.target.bytes? c).or
            (if r.isReplaced then r.target.bytes? '?' else if r.isLax then some [] else none)
          match found with
          | none => ([], some "cannot convert")
          | some here =>
              let (more, fault) := r.bytes e fuel rest
              (here ++ more, fault)

/-- The program that writes texts in another encoding. -/
def reencode : Tool := optioned "iconv" "f:t:o:cls" ["from-code=f:", "to-code=t:", "output=o:",
    "list=l", "silent=s", "verbose"] 64 fun g s =>
  let who := "iconv".toList
  let name (c : Char) : Text := (g.value? c).getD []
  if g.has 'l' then
    s.put (ofLines ((Encoding.names.flatMap Prod.fst).map fun t => t.toList ++ "//".toList))
  else
    match Encoding.named? (name 'f'), Encoding.named? (name 't') with
    | none, _ => s.complain 1 who
        ("conversion from \x60".toList ++ name 'f' ++ "\x27 is not supported".toList)
    | _, none => s.complain 1 who
        ("conversion to \x60".toList ++ name 't' ++ "\x27 is not supported".toList)
    | some source, some target =>
        let ends (t : String) : Bool := t.toList.isSuffixOf ((name 't').map Char.toUpper)
        let isIgnored := ends "//IGNORE"
        let r : Reencoding := ⟨source, target, g.has 'c' || isIgnored, ends "//TRANSLIT"⟩
        let (s, texts) := s.gather "iconv" 1 g.operands
        let texts := texts.map Prod.snd
        let (parts, fault) := texts.foldl (fun (parts, fault) t =>
          if fault.isSome then (parts, fault)
          else
            let (e, t) := source.opened t
            let (more, fault) := r.bytes e (t.length + 1) t
            (parts ++ [more], fault)) (([] : List Text), (none : Option String))
        let written := (if texts.isEmpty then [] else target.mark) ++ parts.flatten
        let s := match g.value? 'o' with
          | some path => s.save "iconv" path written
          | none => s.put written
        let strict : Reencoding := { r with isLax := false }
        let isLossy := isIgnored && !g.has 'c' && texts.any fun t =>
          let (e, t) := source.opened t
          (strict.bytes e (t.length + 1) t).2.isSome
        match fault with
        | some fault => s.complain 1 who fault.toList
        | none => if isLossy then s.complain 1 who "cannot convert".toList else s

/-- A letter above the first 128 code points takes two bytes in UTF-8, and one in a table. -/
example : (Encoding.bytes? .utf8 'é').map List.length = some 2 ∧
    (Encoding.bytes? (.bytes 0x100) 'é').map List.length = some 1 := by decide +kernel

end KeyMenu.Sh
