import KeyMenu.Sh.Calculation

/-!
# Braces

In one of the shells a word with braces stands for several words: one for each part between commas,
or for each number or letter of a range (`Word.inBraces`). Quoted signs do not count.
-/

namespace KeyMenu.Sh

namespace Word

/-- A sign that is not quoted. -/
def isPlain (c : Char) (p : Piece) : Bool := p == .literal false [c]

/-- The parts of a word up to the brace that closes, and what follows it; commas divide the parts.
-/
def parts? : Nat → Nat → Word → Option (List Word × Word)
  | 0, _, _ => none
  | _ + 1, _, [] => none
  | fuel + 1, depth, p :: rest =>
      if isPlain '\x7d' p && depth = 0 then some ([[]], rest)
      else if isPlain ',' p && depth = 0 then
        (parts? fuel 0 rest).map fun (parts, after) => ([] :: parts, after)
      else
        let depth :=
          if isPlain '\x7b' p then depth + 1
          else if isPlain '\x7d' p then depth - 1
          else depth
        (parts? fuel depth rest).map fun (parts, after) =>
          match parts with
          | first :: others => ((p :: first) :: others, after)
          | [] => ([[p]], after)

/-- Both ends of a range and its step. -/
def rangeEnds? (t : Text) : Option (Text × Text × Option Text) := do
  let (first, rest) ← Text.splitFirst ['.', '.'] t
  match Text.splitFirst ['.', '.'] rest with
  | some (last, step) => return (first, last, some step)
  | none => return (first, rest, none)

/-- Numbers from one to another. -/
def counted (first last step : Int) : List Int :=
  let step := if step = 0 then 1 else step.natAbs
  (List.range ((last - first).natAbs / step + 1)).map fun (n : Nat) =>
    if first ≤ last then first + ((step * n : Nat) : Int) else first - ((step * n : Nat) : Int)

/-- A number with so many digits. -/
def widened (width : Nat) (n : Int) : Text :=
  let digits := Text.ofNat n.natAbs
  let sign : Text := if n < 0 then ['-'] else []
  sign ++ List.replicate (width - digits.length - sign.length) '0' ++ digits

/-- The texts of a range. -/
def range? (t : Text) : Option (List Text) := do
  let (first, last, step) ← rangeEnds? t
  let step ← match step with
    | none => some 1
    | some step => number? .bash step
  match number? .bash first, number? .bash last, first, last with
  | some a, some b, _, _ =>
      let isWide (t : Text) : Bool := 1 < t.length && (t.head? = some '0' || t.take 2 = ['-', '0'])
      let width := if isWide first || isWide last then max first.length last.length else 0
      return (counted a b step).map (widened width)
  | _, _, [a], [b] =>
      if a.isAlpha && b.isAlpha then
        return (counted a.toNat b.toNat step).map fun n => [Char.ofNat n.toNat]
      else none
  | _, _, _, _ => none

/-- The words that stand between braces: there are none where the braces mean nothing. -/
def choices? (parts : List Word) : Option (List Word) :=
  match parts with
  | [part] => do
      let t ← part.bare?
      let texts ← range? t
      return texts.map fun t => t.map fun c => Piece.literal false [c]
  | parts => some parts

/-- The words that a word with braces stands for. -/
def inBraces : Nat → Word → List Word
  | 0, w => [w]
  | _ + 1, [] => [[]]
  | fuel + 1, p :: rest =>
      let plain := (inBraces fuel rest).map (p :: ·)
      if !isPlain '\x7b' p then plain
      else
        match (parts? (rest.length + 1) 0 rest).bind fun (parts, after) =>
            (choices? parts).map (·, after) with
        | none => plain
        | some (parts, after) =>
            let afters := inBraces fuel after
            parts.flatMap fun part => (inBraces fuel part).flatMap fun first =>
              afters.map (first ++ ·)

/-- The words that a word stands for, with enough fuel for its length. -/
def unbraced (dialect : Dialect) (w : Word) : List Word :=
  if dialect = .bash && w.any (isPlain '\x7b') then inBraces (w.length + 1) w else [w]

end Word

end KeyMenu.Sh
