import KeyMenu.Sh.Pattern

/-!
# Regular expressions

The expressions by which texts are searched: letters, groups, repetitions, alternatives, places and
what a group has taken in before. Ways to fit an expression to a text are tried one after the other
(`Regular.fit`), those first that an expression prefers; either the first one that succeeds counts,
or the one that takes in most. `Regular.find?` finds the first place where an expression fits.
-/

namespace KeyMenu.Sh

/-- A set of letters: some ranges, or all letters beyond them. -/
structure Letters where
  isNegated : Bool
  ranges : List (Char × Char)
  folds : Bool
  deriving DecidableEq

/-- The letter is in the set. -/
def Letters.admits (l : Letters) (c : Char) : Bool :=
  (Mark.isIn l.ranges c ||
    (l.folds && (Mark.isIn l.ranges (small c) || Mark.isIn l.ranges (capital c)))) != l.isNegated

/-- A place in a text: before everything, after everything, where lines begin or end, where there is
a line that begins, or where words begin or end, or do not. -/
inductive Position
  | textStart
  | textEnd
  | lastEnd
  | lineStart
  | openLine
  | lineEnd
  | wordEdge
  | noWordEdge
  | wordStart
  | wordEnd
  deriving DecidableEq

/-- A regular expression. -/
inductive Regular
  | empty
  | letter (l : Letters)
  | position (p : Position)
  | group (number : Nat) (inner : Regular)
  | sequence (first second : Regular)
  | either (left right : Regular)
  | many (least : Nat) (most : Option Nat) (isGreedy : Bool) (inner : Regular)
  | again (number : Nat) (folds : Bool)
  | look (isAhead holds : Bool) (inner : Regular)
  | firmly (inner : Regular)
  | cut
  deriving DecidableEq

/-- A place in a text that is searched: what stands before it, the last sign first, what stands
after it, and its number. -/
structure Spot where
  before : Text
  after : Text
  place : Nat

/-- The place behind the next sign. -/
def Spot.next (s : Spot) : Spot :=
  match s.after with
  | [] => s
  | c :: rest => ⟨c :: s.before, rest, s.place + 1⟩

/-- The place of a number in a text. -/
def Spot.at (t : Text) (n : Nat) : Spot := ⟨(t.take n).reverse, t.drop n, min n t.length⟩

/-- A letter, a digit or an underscore. -/
def isWordSign (c : Char) : Bool := c.isAlphanum || c == '_'

namespace Position

/-- The place is one that is asked for. -/
def holds (p : Position) (s : Spot) : Bool :=
  let isAfter := s.before.head?.any isWordSign
  let isBefore := s.after.head?.any isWordSign
  match p with
  | .textStart => s.before.isEmpty
  | .textEnd => s.after.isEmpty
  | .lastEnd => s.after.isEmpty || s.after = ['\n']
  | .lineStart => s.before.isEmpty || s.before.head? = some '\n'
  | .openLine => s.before.isEmpty || (s.before.head? = some '\n' && !s.after.isEmpty)
  | .lineEnd => s.after.isEmpty || s.after.head? = some '\n'
  | .wordEdge => isAfter != isBefore
  | .noWordEdge => isAfter == isBefore
  | .wordStart => !isAfter && isBefore
  | .wordEnd => isAfter && !isBefore

end Position

/-- What groups have taken in, from a place to another one, the latest first; the number 0 stands
for the place at which what has been found is to begin. -/
abbrev Captures := List (Nat × Nat × Nat)

/-- What one group has taken in. -/
def Captures.get? (c : Captures) (n : Nat) : Option (Nat × Nat) :=
  (c.find? (·.1 == n)).map Prod.snd

/-- What has been found: from where to where, and what the groups have taken in. -/
structure Found where
  start : Nat
  stop : Nat
  captures : Captures

namespace Regular

/-- What has been found so far, and whether that will do. -/
abbrev Search := Option (Spot × Captures) × Bool

/-- The places after signs of a set, one after the other, the last one first; at most so many. -/
def runOf (l : Letters) : Nat → Spot → List Spot → List Spot
  | 0, _, found => found
  | fuel + 1, s, found =>
      match s.after with
      | c :: _ => if l.admits c then runOf l fuel s.next (s.next :: found) else found
      | [] => found

/-- The signs of a text come next; capitals may count as small letters. -/
def takes (folds : Bool) : Text → Spot → Option Spot
  | [], s => some s
  | c :: t, s =>
      match s.after with
      | d :: _ => if c == d || (folds && small c == small d) then takes folds t s.next else none
      | [] => none

/-- Tries ways in turn until one will do. -/
def firstOf (found : Option (Spot × Captures)) :
    List (Option (Spot × Captures) → Search) → Search
  | [] => (found, false)
  | way :: ways =>
      match way found with
      | (found, true) => (found, true)
      | (found, false) => firstOf found ways

/-- Tries the ways to fit an expression at a place, and what comes then. -/
def fit (whole : Text) : Nat → Regular → Spot → Captures →
    (Spot → Captures → Option (Spot × Captures) → Search) → Option (Spot × Captures) → Search
  | 0, _, _, _, _, found => (found, true)
  | fuel + 1, r, s, caught, goes, found =>
      match r with
      | .empty => goes s caught found
      | .letter l =>
          match s.after with
          | c :: _ => if l.admits c then goes s.next caught found else (found, false)
          | [] => (found, false)
      | .position p => if p.holds s then goes s caught found else (found, false)
      | .group n inner =>
          fit whole fuel inner s caught
            (fun after caught => goes after ((n, s.place, after.place) :: caught)) found
      | .sequence first second =>
          fit whole fuel first s caught
            (fun after caught => fit whole fuel second after caught goes) found
      | .either left right =>
          firstOf found [fit whole fuel left s caught goes, fit whole fuel right s caught goes]
      | .many least most isGreedy (.letter l) =>
          let spots := runOf l (most.getD s.after.length) s []
          let count := spots.length
          let ways := (spots ++ [s]).take (count + 1 - least)
          if count < least then (found, false)
          else firstOf found ((if isGreedy then ways else ways.reverse).map fun s =>
            goes s caught)
      | .many 0 (some 0) _ _ => goes s caught found
      | .many least most isGreedy inner =>
          let more := fit whole fuel inner s caught fun after caught =>
            if after.place = s.place && least = 0 then fun found => (found, false)
            else fit whole fuel (.many (least - 1) (most.map (· - 1)) isGreedy inner) after caught
              goes
          if 0 < least then more found
          else if isGreedy then firstOf found [more, goes s caught]
          else firstOf found [goes s caught, more]
      | .again n folds =>
          match caught.get? n with
          | none => (found, false)
          | some (start, stop) =>
              match takes folds ((whole.take stop).drop start) s with
              | some after => goes after caught found
              | none => (found, false)
      | .look true holds inner =>
          match fit whole fuel inner s caught (fun after caught _ => (some (after, caught), true))
              none with
          | (some (_, inside), _) => if holds then goes s inside found else (found, false)
          | (none, _) => if holds then (found, false) else goes s caught found
      | .look false holds inner =>
          let starts := (List.range (s.place + 1)).map fun n => Spot.at whole (s.place - n)
          let isThere := starts.any fun start =>
            (fit whole fuel inner start caught
              (fun after caught _ =>
                if after.place = s.place then (some (after, caught), true) else (none, false))
              none).1.isSome
          if isThere == holds then goes s caught found else (found, false)
      | .firmly inner =>
          match fit whole fuel inner s caught (fun after caught _ => (some (after, caught), true))
              none with
          | (some (after, caught), _) => goes after caught found
          | (none, _) => (found, false)
      | .cut => goes s ((0, s.place, s.place) :: caught) found

/-- Steps that are enough for any search. -/
def fitFuel : Nat := 10000000

/-- What an expression takes in at a place: most of it where `longest`, or else what it prefers. -/
def fitAt? (r : Regular) (longest : Bool) (whole : Text) (s : Spot) : Option Found :=
  let (found, _) := fit whole fitFuel r s [] (fun after caught found =>
    if !longest then (some (after, caught), true)
    else
      let isMore := found.all fun (best, _) => best.place < after.place
      (if isMore then some (after, caught) else found, after.after.isEmpty)) none
  found.map fun (after, caught) =>
    ⟨((caught.get? 0).map Prod.fst).getD s.place, after.place, caught⟩

/-- The first place from here on where an expression fits. -/
def findFrom? (r : Regular) (longest : Bool) (whole : Text) : Nat → Spot → Option Found
  | 0, _ => none
  | fuel + 1, s =>
      match r.fitAt? longest whole s with
      | some found => some found
      | none => if s.after.isEmpty then none else findFrom? r longest whole fuel s.next

/-- An expression begins with the beginning of the text. -/
def isAnchored : Regular → Bool
  | .position .textStart => true
  | .sequence first _ => first.isAnchored
  | .group _ inner => inner.isAnchored
  | .either left right => left.isAnchored && right.isAnchored
  | _ => false

/-- The first place from a number on where an expression fits. -/
def find? (r : Regular) (longest : Bool) (t : Text) (start : Nat) : Option Found :=
  let s := Spot.at t start
  if r.isAnchored then r.fitAt? longest t s else findFrom? r longest t (t.length + 2) s

/-- An expression fits somewhere. -/
def occursIn (r : Regular) (t : Text) : Bool := (r.find? false t 0).isSome

/-- An expression fits a whole text. -/
def covers (r : Regular) (t : Text) : Bool :=
  (r.sequence (.position .textEnd)).fitAt? false t (.at t 0) |>.isSome

/-- One expression after another. -/
def followedBy : Regular → Regular → Regular
  | .empty, second => second
  | first, .empty => first
  | first, second => .sequence first second

/-- The number of groups in an expression. -/
def groupCount : Regular → Nat
  | .group n inner => max n inner.groupCount
  | .sequence first second => max first.groupCount second.groupCount
  | .either left right => max left.groupCount right.groupCount
  | .many _ _ _ inner => inner.groupCount
  | .look _ _ inner => inner.groupCount
  | .firmly inner => inner.groupCount
  | _ => 0

/-- The signs of a text as they stand. -/
def ofText (folds : Bool) (t : Text) : Regular :=
  t.foldr (fun c r => (Regular.letter ⟨false, [(c, c)], folds⟩).followedBy r) .empty

/-- All places where an expression fits, one after the other; after an empty one the next begins one
sign later, and none is empty right behind another one. -/
def findAll (r : Regular) (longest : Bool) (t : Text) : Nat → Nat → Option Nat → List Found
  | 0, _, _ => []
  | fuel + 1, start, last =>
      match r.find? longest t start with
      | none => []
      | some found =>
          if found.stop = found.start then
            let more := if found.stop < t.length then
              findAll r longest t fuel (found.stop + 1) none else []
            if last = some found.start then more else found :: more
          else found :: findAll r longest t fuel found.stop (some found.stop)

end Regular

/-- The part of a text that has been found. -/
def Found.text (f : Found) (t : Text) : Text := (t.take f.stop).drop f.start

/-- What a group has taken in of a text; the number 0 stands for all that has been found. -/
def Found.group? (f : Found) (t : Text) (n : Nat) : Option Text :=
  if n = 0 then some (f.text t)
  else (f.captures.get? n).map fun (start, stop) => (t.take stop).drop start

end KeyMenu.Sh
