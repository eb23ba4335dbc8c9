import KeyMenu.Sh.Snippet.Find

/-!
# Functions for texts and numbers

What snippets can do with scalars: parts of texts, letters, numbers and formats. A `Routine` gets
the expressions of its arguments and computes them itself, as some of them are to be looked at
first.
-/

namespace KeyMenu.Sh.Snippet

/-- What a function does with the expressions of its arguments, for one value or for a list of
them. -/
abbrev Routine := Inner → Bool → List Expr → Act (List Scalar)

/-- The first argument, or the variable that stands for it. -/
def firstOr (es : List Expr) : Expr := es.headD defaultVariable

/-- A function from a text to a text. -/
def onText (f : Text → Text) : Routine := fun i _ es => do
  return [.text (f (← i.text (firstOr es)))]

/-- A function from a number to a number. -/
def onFloat (f : Float → Float) : Routine := fun i _ es => do
  let x := (← i.value (firstOr es)).quantity.float
  return [.number (.fraction (f x))]

/-- A function from all arguments to a scalar. -/
def onValues (f : List Scalar → Scalar) : Routine := fun i _ es => do return [f (← i.values es)]

/-- The letters of the first sign are changed. -/
def onFirst (f : Char → Char) : Text → Text
  | c :: rest => f c :: rest
  | [] => []

/-- The length of a text. -/
def lengthOf : Routine := fun i _ es => do
  match ← i.value (firstOr es) with
  | .undefined => return [.undefined]
  | s => return [.ofNat s.spelling.length]

/-- Where a part of a text begins and ends, counted from its end where that is below zero. -/
def partBounds? (size : Nat) (start : Int) (count : Option Int) : Option (Nat × Nat) :=
  let first := if start < 0 then start + size else start
  let last := match count with
    | none => (size : Int)
    | some n => if n < 0 then size + n else first + n
  if (size : Int) < first || (first < 0 && last < 0) then none
  else
    let first := first.toNat
    some (first, max first (min size last.toNat))

/-- A part of a text, which may be replaced. -/
def partOfText (put : Option Text) (i : Inner) (es : List Expr) : Act (List Scalar) := do
  match es with
  | target :: start :: rest =>
      let t ← i.text target
      let start ← i.int start
      let count ← match rest.head? with
        | some e => some <$> i.int e
        | none => pure none
      let put ← match put, (rest.drop 1).head? with
        | none, some e => some <$> i.text e
        | put, _ => pure put
      match partBounds? t.length start count with
      | none =>
          if put.isSome then die "substr outside of string".toList else return [.undefined]
      | some (first, last) =>
          match put with
          | some u => putScalar (← i.cell target) (.text (t.take first ++ u ++ t.drop last))
          | none => pure ()
          return [.text ((t.take last).drop first)]
  | _ => die "Not enough arguments for substr".toList

/-- Where a text begins in another one, not before a place; so many places are tried. -/
def placeAfter? (part : Text) : Nat → Nat → Text → Option Nat
  | 0, _, _ => none
  | fuel + 1, n, t =>
      if part.isPrefixOf t then some n
      else match t with
        | [] => none
        | _ :: rest => placeAfter? part fuel (n + 1) rest

/-- The first place where a text begins in another one. -/
def firstPlace : Routine := onValues fun values =>
  match values with
  | t :: part :: rest =>
      let t := t.spelling
      let start := min t.length ((rest.head?.map Scalar.int).getD 0).toNat
      match placeAfter? part.spelling (t.length + 1) start (t.drop start) with
      | some n => .ofNat n
      | none => .ofInt (-1)
  | _ => .ofInt (-1)

/-- The last place where a text begins in another one. -/
def lastPlace : Routine := onValues fun values =>
  match values with
  | t :: part :: rest =>
      let t := t.spelling
      let most : Int := ((rest.head?.map Scalar.int).getD t.length)
      let places := (List.range (t.length + 1)).filter fun (n : Nat) =>
        Int.ofNat n ≤ max most 0 && part.spelling.isPrefixOf (t.drop n)
      match places.getLast? with
      | some n => .ofNat n
      | none => .ofInt (-1)
  | _ => .ofInt (-1)

/-- All signs but letters and digits behind backslashes. -/
def backslashed (t : Text) : Text := t.flatMap fun c => if isNameSign c then [c] else ['\\', c]

/-- A format with its directives filled in. -/
def filledIn : Routine := onValues fun values =>
  match values with
  | format :: rest => .text (formatted format.spelling rest)
  | [] => .text []

/-- Texts with another one in between. -/
def joinedBy : Routine := onValues fun values =>
  match values with
  | mark :: rest => .text (Text.joinWith mark.spelling (rest.map Scalar.spelling))
  | [] => .text []

/-- A list, or a text, the other way round. -/
def reversed : Routine := fun i wants es => do
  let values ← i.values es
  if wants then return values.reverse
  else
    let values ← if es.isEmpty then i.evaluate false defaultVariable else pure values
    return [.text (values.flatMap Scalar.spelling).reverse]

/-- The pieces of a text. -/
def piecesOf : Routine := fun i wants es => do
  let t ← i.text ((es.drop 1).headD defaultVariable)
  let limit ← match (es.drop 2).head? with
    | some e => i.int e
    | none => pure 0
  let byExpression (pattern : Expr) (flags : Text) : Act (List Scalar) := do
    let flags := match pattern with
      | .text ['^'] => 'm' :: flags
      | _ => flags
    let (r, _) ← expressionOf i pattern flags
    return cutText r t limit
  let pieces ← match es.head? with
    | none => pure (cutBlanks t limit)
    | some (.fits none pattern flags) => byExpression pattern flags
    | some e => do
        let p ← i.text e
        if p = [' '] then pure (cutBlanks t limit) else byExpression (.text p) []
  return if wants then pieces else [.ofNat pieces.length]

/-- The number that digits of a base stand for, with a sign for the base in front. -/
def spelledNumber (usual : Nat) (t : Text) : Scalar :=
  let t := (t.dropWhile fun c => c == ' ' || ('\t' ≤ c && c ≤ '\x0d')).filter (· != '_')
  let (base, digits) := match t.map Char.toLower with
    | '0' :: 'x' :: rest => (16, rest)
    | 'x' :: rest => (16, rest)
    | '0' :: 'b' :: rest => if usual = 16 then (16, '0' :: 'b' :: rest) else (2, rest)
    | 'b' :: rest => if usual = 16 then (16, 'b' :: rest) else (2, rest)
    | '0' :: 'o' :: rest => (8, rest)
    | t => (usual, t)
  match numberIn? base (digits.takeWhile fun c => digitValue c < base) with
  | some n => .ofInt n
  | none => .ofInt 0

/-- The whole number towards zero. -/
def wholePart : Routine := fun i _ es => do
  match (← i.value (firstOr es)).quantity with
  | .whole n => return [.ofInt n]
  | .fraction x =>
      return [.number (Quantity.settled (.fraction (truncatedFloat x)))]

/-- A number without its sign. -/
def magnitude : Routine := fun i _ es => do
  match (← i.value (firstOr es)).quantity with
  | .whole n => return [.ofInt n.natAbs]
  | .fraction x => return [.number (.fraction x.abs)]

/-- A root, or what has none. -/
def rootOf : Routine := fun i _ es => do
  let x := (← i.value (firstOr es)).quantity
  if x.float < 0 then die ("Can\x27t take sqrt of ".toList ++ x.spelled)
  else return [.number (.fraction x.float.sqrt)]

/-- A logarithm, or what has none. -/
def logarithm : Routine := fun i _ es => do
  let x := (← i.value (firstOr es)).quantity
  if x.float ≤ 0 then die ("Can\x27t take log of ".toList ++ x.spelled)
  else return [.number (.fraction x.float.log)]

/-- A function from two numbers to a number. -/
def onPair (f : Float → Float → Float) : Routine := onValues fun values =>
  match values with
  | a :: b :: _ => .number (.fraction (f a.quantity.float b.quantity.float))
  | _ => .undefined

/-- The number of a sign. -/
def signNumber : Routine := fun i _ es => do
  return [.ofNat (((← i.text (firstOr es)).head?.map Char.toNat).getD 0)]

/-- The sign of a number. -/
def signOf (n : Int) : Text :=
  if n < 0 then octets [Char.ofNat 0xfffd]
  else if n < 256 then [Char.ofNat n.toNat] else octets [Char.ofNat n.toNat]

/-- A number below another one that cannot be foreseen. -/
def anyNumber : Routine := fun i _ es => do
  let most ← match es.head? with
    | some e => do pure (← i.value e).quantity.float
    | none => pure 1.0
  modify fun m => { m with seed := State.nextRandom m.seed }
  let part := Float.ofNat (State.randomValue (← get).seed) / 32768.0
  return [.number (.fraction (part * (if most == 0 then 1.0 else most)))]

/-- Makes what cannot be foreseen begin at some place. -/
def setSeed : Routine := fun i _ es => do
  let n ← match es.head? with
    | some e => i.int e
    | none => pure 42
  modify fun m => { m with seed := n.natAbs }
  return [.ofInt n]

/-- A text looks like a number. -/
def isNumeric (s : Scalar) : Bool :=
  match s with
  | .undefined => false
  | .number _ => true
  | .both _ _ => true
  | .text t =>
      let t := t.dropWhile fun c => c == ' ' || ('\t' ≤ c && c ≤ '\x0d')
      let rest := t.dropWhile fun c => c == '-' || c == '+'
      match Dyadic.read? 53 false t with
      | some (_, after) => after.all fun c => c == ' ' || c == '\n'
      | none => ["inf".toList, "infinity".toList, "nan".toList].contains (rest.map Char.toLower)
  | _ => false

/-- Removes a separator from the ends of texts. -/
def chomped (cells : List Nat) : Act (List Scalar) := do
  let separator ← sharedScalar "/"
  let mark := separator.spelling
  let counts ← cells.mapM fun n => do
    let t := (← scalarAt n).spelling
    let bare := if mark.isEmpty then (t.reverse.dropWhile (· == '\n')).reverse
      else if mark.isSuffixOf t then t.take (t.length - mark.length) else t
    if bare.length < t.length then putScalar n (.text bare)
    return t.length - bare.length
  return [.ofNat (counts.foldl (· + ·) 0)]

/-- Removes the last sign of texts. -/
def chopped (cells : List Nat) : Act (List Scalar) := do
  let signs ← cells.mapM fun n => do
    let t := (← scalarAt n).spelling
    putScalar n (.text t.dropLast)
    return t.drop (t.length - 1)
  return [.text (signs.getLast?.getD [])]

/-- The cells of what a function changes. -/
def changedCells (i : Inner) (es : List Expr) : Act (List Nat) := do
  match es with
  | [] => return [← i.cell defaultVariable]
  | [.assign target op value] =>
      let _ ← i.evaluate false (.assign target op value)
      match target with
      | .own _ names _ =>
          let cells ← names.mapM fun (sign, name) => do
            if sign = '$' then return [← cellOf sign name]
            else return (← itemsAt (← cellOf sign name)).toList
          return cells.flatten
      | target => allCells i [target]
  | [.own isShared [(sign, name)] isList] =>
      if sign = '$' then return [← i.cell (.own isShared [(sign, name)] isList)] else return []
  | es => allCells i es

/-- The place behind what has been found last in a variable. -/
def placeBehind : Routine := fun i _ es => do
  let n ← i.cell (firstOr es)
  match (← get).places[n]? with
  | some place => return [.ofNat place]
  | none => return [.undefined]

/-- The functions for texts and numbers. -/
def valueRoutines : List (String × Routine) :=
  [("length", lengthOf), ("substr", fun i _ es => partOfText none i es), ("index", firstPlace),
    ("rindex", lastPlace), ("uc", onText (·.map Char.toUpper)), ("lc", onText (·.map Char.toLower)),
    ("fc", onText (·.map Char.toLower)), ("ucfirst", onText (onFirst Char.toUpper)),
    ("lcfirst", onText (onFirst Char.toLower)), ("quotemeta", onText backslashed),
    ("sprintf", filledIn), ("join", joinedBy), ("reverse", reversed), ("split", piecesOf),
    ("hex", fun i _ es => do return [spelledNumber 16 (← i.text (firstOr es))]),
    ("oct", fun i _ es => do return [spelledNumber 8 (← i.text (firstOr es))]),
    ("int", wholePart), ("abs", magnitude), ("sqrt", rootOf), ("log", logarithm),
    ("exp", onFloat Float.exp), ("sin", onFloat Float.sin), ("cos", onFloat Float.cos),
    ("atan2", onPair Float.atan2), ("pow", onPair Float.pow), ("fmod", onPair remainderOf),
    ("floor", onFloat Float.floor), ("ceil", onFloat Float.ceil), ("ord", signNumber),
    ("chr", fun i _ es => do return [.text (signOf (← i.int (firstOr es)))]), ("rand", anyNumber),
    ("srand", setSeed), ("pos", placeBehind),
    ("looks_like_number", fun i _ es => do return [.ofBool (isNumeric (← i.value (firstOr es)))]),
    ("chomp", fun i _ es => do chomped (← changedCells i es)),
    ("chop", fun i _ es => do chopped (← changedCells i es))]

end KeyMenu.Sh.Snippet
