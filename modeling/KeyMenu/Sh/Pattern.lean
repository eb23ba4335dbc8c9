import KeyMenu.Sh.Octet

/-!
# Patterns

A pattern says which texts fit: a star for anything, a question mark for one sign, brackets for one
of several, and groups of patterns, of which one or none or several in a row may fit. Quoted signs
stand for themselves.

* `Pattern.ofSigns`: the pattern that an expanded word is;
* `Pattern.fits`: the texts that fit;
* `Pattern.trimmed`: a text without a part at one end that fits.
-/

namespace KeyMenu.Sh

/-- A sign of an expanded word. -/
structure Sign where
  char : Char
  isQuoted : Bool
  deriving DecidableEq

/-- An expanded word. -/
abbrev Signs := List Sign

namespace Signs

/-- A text none of whose signs has a meaning. -/
def quoted (t : Text) : Signs := t.map (⟨·, true⟩)

/-- A text all of whose signs may have a meaning. -/
def plain (t : Text) : Signs := t.map (⟨·, false⟩)

/-- The text of an expanded word. -/
def text (signs : Signs) : Text := signs.map (·.char)

@[simp] theorem text_quoted (t : Text) : text (quoted t) = t := by
  simp [text, quoted, Function.comp_def]

@[simp] theorem text_plain (t : Text) : text (plain t) = t := by
  simp [text, plain, Function.comp_def]

end Signs

/-- An expanded word whose signs are code points where it is to be read as UTF-8. -/
def Signs.widened (isWide : Bool) (signs : Signs) : Signs :=
  if isWide && signs.any (0x80 ≤ ·.char.toNat) then
    (signs.splitBy fun a b => a.isQuoted == b.isQuoted).flatMap fun group =>
      (KeyMenu.Sh.widened true (Signs.text group)).map (⟨·, (group.head?.any (·.isQuoted))⟩)
  else signs

/-- A part of a pattern. A group is of a kind: exactly one of its patterns, at most one, any number
of them, at least one, or none of them. -/
inductive Mark
  | exactly (c : Char)
  | any
  | anything
  | oneOf (isNegated : Bool) (ranges : List (Char × Char))
  | group (kind : Char) (patterns : List (List Mark))

/-- A pattern. -/
abbrev Pattern := List Mark

/-- The named classes of signs. -/
def classes : List (Text × List (Char × Char)) :=
  [("alpha".toList, [('A', 'Z'), ('a', 'z')]), ("digit".toList, [('0', '9')]),
    ("alnum".toList, [('A', 'Z'), ('a', 'z'), ('0', '9')]), ("upper".toList, [('A', 'Z')]),
    ("lower".toList, [('a', 'z')]), ("space".toList, [(' ', ' '), ('\t', '\x0d')]),
    ("blank".toList, [(' ', ' '), ('\t', '\t')]),
    ("punct".toList, [('!', '/'), (':', '@'), ('[', '\x60'), ('\x7b', '~')]),
    ("xdigit".toList, [('0', '9'), ('A', 'F'), ('a', 'f')]),
    ("cntrl".toList, [('\x00', '\x1f'), ('\x7f', '\x7f')]), ("print".toList, [(' ', '~')]),
    ("graph".toList, [('!', '~')])]

namespace Mark

/-- The sign is in one of the ranges. -/
def isIn (ranges : List (Char × Char)) (c : Char) : Bool :=
  ranges.any fun (low, high) => low ≤ c && c ≤ high

/-- The sign is one that the mark stands for; capitals may count as small letters. -/
def admits (folds : Bool) (m : Mark) (c : Char) : Bool :=
  match m with
  | .exactly d => c == d || (folds && small c == small d)
  | .oneOf isNegated ranges =>
      (isIn ranges c || (folds && (isIn ranges (small c) || isIn ranges (capital c)))) != isNegated
  | _ => true

/-- The class whose name is enclosed in colons at the beginning, and what follows it. -/
def classAt? (signs : Signs) : Option (List (Char × Char) × Signs) :=
  match Signs.text (signs.take 2) with
  | ['[', ':'] => do
      let (name, _) ← Text.splitFirst [':', ']'] (Signs.text (signs.drop 2))
      let (_, ranges) ← classes.find? (·.1 == name)
      return (ranges, signs.drop (name.length + 4))
  | _ => none

/-- The ranges up to the bracket that closes, and what follows it. -/
def ranges? : Nat → Bool → Signs → Option (List (Char × Char) × Signs)
  | 0, _, _ => none
  | _ + 1, _, [] => none
  | fuel + 1, isFirst, c :: rest =>
      if c = ⟨']', false⟩ && !isFirst then some ([], rest)
      else
        match classAt? (c :: rest), rest with
        | some (found, rest), _ => do
            let (more, after) ← ranges? fuel false rest
            return (found ++ more, after)
        | none, ⟨'-', false⟩ :: d :: others =>
            if d = ⟨']', false⟩ then do
              let (more, after) ← ranges? fuel false rest
              return ((c.char, c.char) :: more, after)
            else do
              let (more, after) ← ranges? fuel false others
              return ((c.char, d.char) :: more, after)
        | none, rest => do
            let (more, after) ← ranges? fuel false rest
            return ((c.char, c.char) :: more, after)

/-- The brackets whose inside is given, and what follows them; `negators` are the signs that turn
their meaning around. -/
def brackets? (negators : List Char) (signs : Signs) : Option (Mark × Signs) :=
  match signs with
  | [] => none
  | c :: rest =>
      let isNegated := !c.isQuoted && negators.contains c.char
      (ranges? (signs.length + 1) true (if isNegated then rest else signs)).map
        fun (ranges, after) => (.oneOf isNegated ranges, after)

end Mark

namespace Pattern

/-- How patterns are read: the signs that turn the meaning of brackets around, whether there are
groups, and whether capitals count as small letters. -/
structure Rules where
  negators : List Char
  groups : Bool
  folds : Bool

/-- The signs of the alternatives between bars up to the bracket that closes, and what follows
it. -/
def alternatives? : Nat → Nat → Signs → Option (List Signs × Signs)
  | 0, _, _ => none
  | _ + 1, _, [] => none
  | fuel + 1, depth, c :: rest =>
      let extended (depth : Nat) : Option (List Signs × Signs) := do
        let (alternatives, after) ← alternatives? fuel depth rest
        return ((c :: alternatives.headD []) :: alternatives.tail, after)
      if c = ⟨')', false⟩ then if depth = 0 then some ([[]], rest) else extended (depth - 1)
      else if c = ⟨'(', false⟩ then extended (depth + 1)
      else if c = ⟨'|', false⟩ && depth = 0 then do
        let (alternatives, after) ← alternatives? fuel depth rest
        return ([] :: alternatives, after)
      else extended depth

/-- Reads a pattern, with enough fuel for its length. -/
def read (rules : Rules) : Nat → Signs → Pattern
  | 0, _ => []
  | _ + 1, [] => []
  | fuel + 1, c :: rest =>
      let group : Option (List Signs × Signs) :=
        if rules.groups && !c.isQuoted && "?*+@!".toList.contains c.char &&
            rest.head? = some ⟨'(', false⟩ then alternatives? (rest.length + 1) 0 rest.tail
        else none
      match group with
      | some (alternatives, rest) =>
          .group c.char (alternatives.map (read rules fuel)) :: read rules fuel rest
      | none =>
          if c.isQuoted then .exactly c.char :: read rules fuel rest
          else
            match c.char with
            | '*' => .anything :: read rules fuel rest
            | '?' => .any :: read rules fuel rest
            | '[' =>
                match Mark.brackets? rules.negators rest with
                | some (mark, rest) => mark :: read rules fuel rest
                | none => .exactly '[' :: read rules fuel rest
            | '\\' =>
                match rest with
                | d :: rest => .exactly d.char :: read rules fuel rest
                | [] => [.exactly '\\']
            | d => .exactly d :: read rules fuel rest

/-- The pattern that an expanded word is. -/
def ofSigns (rules : Rules) (signs : Signs) : Pattern := read rules (signs.length + 1) signs

/-- A text and what is left of it from every later sign on. -/
def suffixes : Text → List Text
  | [] => [[]]
  | c :: t => (c :: t) :: suffixes t

/-- A beginning of the text fits the pattern and the rest is as asked. -/
def fitsThen (folds : Bool) : Nat → Pattern → Text → (Text → Bool) → Bool
  | 0, _, _, _ => false
  | _ + 1, [], t, goes => goes t
  | fuel + 1, .anything :: p, t, goes =>
      if p.isEmpty then (suffixes t).any goes
      else (suffixes t).any fun rest => fitsThen folds fuel p rest goes
  | fuel + 1, .group kind patterns :: p, t, goes =>
      let one (goes : Text → Bool) : Bool := patterns.any fun q => fitsThen folds fuel q t goes
      let more (rest : Text) : Bool :=
        rest.length < t.length && fitsThen folds fuel (.group '*' patterns :: p) rest goes
      let after (rest : Text) : Bool := fitsThen folds fuel p rest goes
      match kind with
      | '@' => one after
      | '?' => after t || one after
      | '*' => after t || one more
      | '+' => one fun rest => after rest || more rest
      | _ => (suffixes t).any fun rest =>
          after rest && !patterns.any fun q =>
            fitsThen folds fuel q (t.take (t.length - rest.length)) List.isEmpty
  | _ + 1, _ :: _, [], _ => false
  | fuel + 1, m :: p, c :: t, goes => m.admits folds c && fitsThen folds fuel p t goes

/-- Steps that are enough to compare a text with a pattern. -/
def fitsFuel : Nat := 1000000

/-- The text fits the pattern. -/
def fits (folds : Bool) (p : Pattern) (t : Text) : Bool :=
  fitsThen folds fitsFuel p t List.isEmpty

/-- The pattern has a part that stands for several texts. -/
def isOpen (p : Pattern) : Bool := p.any fun | .exactly _ => false | _ => true

/-- The text of a pattern that has no such part. -/
def literal (p : Pattern) : Text := p.filterMap fun | .exactly c => some c | _ => none

/-- The shortest or the longest beginning or end of a text that fits is cut off. -/
def trimmed (folds : Bool) (p : Pattern) (atEnd longest : Bool) (t : Text) : Text :=
  let sizes := List.range (t.length + 1)
  let kept (n : Nat) : Text × Text :=
    if atEnd then (t.drop (t.length - n), t.take (t.length - n)) else (t.take n, t.drop n)
  match (if longest then sizes.reverse else sizes).find? fun n => fits folds p (kept n).1 with
  | some n => (kept n).2
  | none => t

/-- The longest part at the beginning of a text that fits and is not empty. -/
def reach? (folds : Bool) (p : Pattern) (t : Text) : Option Nat :=
  (List.range (t.length + 1)).reverse.find? fun n => n ≠ 0 && fits folds p (t.take n)

/-- What fits is exchanged, once or everywhere, for what is made of it. -/
def exchanged (folds : Bool) (p : Pattern) (new : Text → Text) (everywhere : Bool) :
    Nat → Text → Text
  | 0, t => t
  | _ + 1, [] => []
  | fuel + 1, c :: rest =>
      match p.reach? folds (c :: rest) with
      | none => c :: exchanged folds p new everywhere fuel rest
      | some n =>
          let after := (c :: rest).drop n
          new ((c :: rest).take n) ++
            (if everywhere then exchanged folds p new everywhere fuel after else after)

end Pattern

/-- A star takes in the signs of the rest. -/
example : Pattern.fits false (Pattern.ofSigns ⟨['!'], false, false⟩
    (Signs.plain "a*[!x]".toList)) "abc".toList = true := by
  decide +kernel

/-- A group may be repeated. -/
example : Pattern.fits false (Pattern.ofSigns ⟨['!'], true, false⟩
    (Signs.plain "+(a|bc)d".toList)) "abcad".toList = true := by
  decide +kernel

/-- A quoted star is only a star. -/
example : Pattern.fits false (Pattern.ofSigns ⟨['!'], false, false⟩
    (Signs.quoted "*".toList)) "a".toList = false := by
  decide +kernel

end KeyMenu.Sh
