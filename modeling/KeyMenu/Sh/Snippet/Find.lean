import KeyMenu.Sh.Snippet.Place
import KeyMenu.Sh.Snippet.Token

/-!
# Patterns in snippets

A text is compared with a pattern (`fitted`), parts of it are replaced (`replaced`) or its signs
exchanged (`exchanged`), and it is cut where a pattern fits (`cutText`). What has been found last,
with its groups, can be asked for afterwards (`computed`).
-/

namespace KeyMenu.Sh.Snippet

/-- How the flags behind a pattern say that it is read. -/
def mannerOf (flags : Text) : Manner :=
  { Manner.ofStyle .rich with
    folds := flags.contains 'i'
    isLined := flags.contains 'm'
    dotIsAll := flags.contains 's'
    isSpaced := flags.contains 'x' }

/-- The expression of a pattern, with the names of its groups. -/
def expressionOf (i : Inner) (pattern : Expr) (flags : Text) : Act (Regular × Table Nat) := do
  let t ← i.text pattern
  match Regular.ofTextNamed? (mannerOf flags) t with
  | some found => return found
  | none => die ("Invalid pattern in regex; marked by <-- HERE in m/".toList ++ t ++ ['/'])

/-- Remembers what has been found. -/
def remember (t : Text) (f : Found) (names : Table Nat) : Act Unit :=
  modify fun m => { m with found := some (t, f, names) }

/-- The text of a group, as a scalar. -/
def groupScalar (t : Text) (f : Found) (n : Nat) : Scalar :=
  match f.group? t n with
  | some t => .text t
  | none => .undefined

/-- The scalar of a name that does not lie in a cell. -/
def computed (name : Text) : Act Scalar := do
  let m ← get
  match String.ofList name with
  | "!" => return .both m.errorNumber (faultText m.errorNumber)
  | "$" => return .ofNat m.state.self
  | "." =>
      match Table.get? m.handles m.lastFile with
      | some h => return .ofInt h.count
      | none => return .undefined
  | "<" => return .ofInt 0
  | ">" => return .ofInt 0
  | "]" => return .text "5.038002".toList
  | "^X" => return .text "/usr/bin/perl".toList
  | "^O" => return .text "linux".toList
  | "^T" => return .ofInt m.state.seconds
  | "^V" => return .text "v5.38.2".toList
  | "^W" => return .ofInt 0
  | _ =>
      match m.found with
      | none => return .undefined
      | some (t, f, _) =>
          match name with
          | ['&'] => return .text (f.text t)
          | ['\x60'] => return .text (t.take f.start)
          | ['\x27'] => return .text (t.drop f.stop)
          | ['+'] =>
              return match (f.captures.map (·.1)).max? with
                | some n => groupScalar t f n
                | none => .undefined
          | name => return groupScalar t f (digitsValue name)

/-- The groups of what has been found. -/
def groupsOf (r : Regular) (t : Text) (f : Found) : List Scalar :=
  (List.range r.groupCount).map fun n => groupScalar t f (n + 1)

/-- The expression on which a pattern works. -/
def subject (target : Option Expr) : Expr := target.getD (.variable '$' ['_'])

/-- Compares a text with a pattern. -/
def fitted (i : Inner) (wants : Bool) (target : Option Expr) (pattern : Expr) (flags : Text) :
    Act (List Scalar) := do
  let e := subject target
  let isRepeated := flags.contains 'g'
  let place? : Option Nat ← if isRepeated && !wants && isPlace e then some <$> i.cell e
    else pure none
  let t ← match place? with
    | some n => do pure (← scalarAt n).spelling
    | none => i.text e
  let (r, names) ← expressionOf i pattern flags
  if isRepeated && wants then
    let all := r.findAll false t (t.length + 2) 0 none
    match all.getLast? with
    | some last => remember t last names
    | none => pure ()
    return if r.groupCount = 0 then all.map fun f => .text (f.text t)
      else all.flatMap (groupsOf r t)
  else if isRepeated then
    let places := (← get).places
    let start := (place?.bind fun n => places[n]?).getD 0
    match if t.length < start then none else r.find? false t start with
    | some f =>
        remember t f names
        let next := if f.stop = f.start then f.stop + 1 else f.stop
        place?.forM fun n => modify fun m => { m with places := m.places.insert n next }
        return [.ofBool true]
    | none =>
        place?.forM fun n => modify fun m => { m with places := m.places.erase n }
        return [.ofBool false]
  else
    match r.find? false t 0 with
    | some f =>
        remember t f names
        if !wants then return [.ofBool true]
        else if r.groupCount = 0 then return [.ofInt 1]
        else return groupsOf r t f
    | none => return if wants then [] else [.ofBool false]

/-- Puts something in place of what a pattern fits. -/
def replaced (i : Inner) (target : Option Expr) (pattern by' : Expr) (flags : Text) :
    Act (List Scalar) := do
  let e := subject target
  let n ← i.cell e
  let t := (← scalarAt n).spelling
  let (r, names) ← expressionOf i pattern flags
  let all := if flags.contains 'g' then r.findAll false t (t.length + 2) 0 none
    else (r.find? false t 0).toList
  let parts ← all.mapM fun f => do
    remember t f names
    return (f, ← i.text by')
  let (changed, place) := parts.foldl (fun (done, place) (f, part) =>
    (done ++ (t.take f.start).drop place ++ part, f.stop)) (([] : Text), 0)
  let changed := changed ++ t.drop place
  if flags.contains 'r' then return [.text changed]
  else if all.isEmpty then return [.ofBool false]
  else
    putScalar n (.text changed)
    return [.ofNat all.length]

/-! ### Exchanging signs -/

/-- The signs that are listed, with ranges. -/
def listedSigns : Nat → Text → Text
  | 0, _ => []
  | fuel + 1, t =>
      let one (t : Text) : Option (Char × Text) :=
        match t with
        | '\\' :: c :: rest =>
            let (signs, after) := escape (c :: rest)
            signs.head?.map (·, after)
        | c :: rest => some (c, rest)
        | [] => none
      match one t with
      | none => []
      | some (low, '-' :: rest) =>
          match one rest with
          | some (high, rest) =>
              (List.range (high.toNat + 1 - low.toNat)).map (fun n => Char.ofNat (low.toNat + n)) ++
                listedSigns fuel rest
          | none => [low, '-']
      | some (c, rest) => c :: listedSigns fuel rest

/-- What becomes of a sign: another one, itself, or nothing. -/
def exchangedSign (signs others flags : Text) (c : Char) : Option (Option Char) :=
  let isIn := signs.contains c != flags.contains 'c'
  if !isIn then none
  else
    let place := if flags.contains 'c' then others.length else signs.findIdx (· == c)
    match others[place]? with
    | some d => some (some d)
    | none =>
        if flags.contains 'd' then some none
        else if others.isEmpty then some (some c)
        else some others.getLast?

/-- Exchanges signs of a text, and gives it with the number of those that are listed. -/
def exchangedText (signs others flags : Text) (t : Text) : Text × Nat :=
  let (done, _, count) := t.foldl (fun (done, last, count) c =>
    match exchangedSign signs others flags c with
    | none => (c :: done, none, count)
    | some none => (done, last, count + 1)
    | some (some d) =>
        if flags.contains 's' && last = some d then (done, last, count + 1)
        else (d :: done, some d, count + 1)) (([] : Text), (none : Option Char), 0)
  (done.reverse, count)

/-- Exchanges signs of a text. -/
def exchanged (i : Inner) (target : Option Expr) (signs others flags : Text) :
    Act (List Scalar) := do
  let n ← i.cell (subject target)
  let before := (← scalarAt n).spelling
  let signs := listedSigns (signs.length + 1) signs
  let (t, count) := exchangedText signs (listedSigns (others.length + 1) others) flags before
  if flags.contains 'r' then return [.text t]
  else
    if t ≠ before then putScalar n (.text t)
    return [.ofNat count]

/-! ### Cutting texts -/

/-- The pieces of a text around what has been found, with the groups in between; so many of them at
most. -/
def piecesAround (r : Regular) (t : Text) (most : Option Nat) : Nat → Nat → List Found → List Scalar
  | _, start, [] => [.text (t.drop start)]
  | count, start, f :: found =>
      if most.any (· ≤ count) then [.text (t.drop start)]
      else .text ((t.take f.start).drop start) :: groupsOf r t f ++
        piecesAround r t most (count + 1) f.stop found

/-- Cuts a text where an expression fits; what is empty at the end counts only if a number of pieces
is asked for. -/
def cutText (r : Regular) (t : Text) (limit : Int) : List Scalar :=
  if t.isEmpty then []
  else
    let found := (r.findAll false t (t.length + 2) 0 none).filter fun f =>
      0 < f.stop && f.start < t.length
    let most := if 0 < limit then some limit.toNat else none
    let pieces := piecesAround r t most 1 0 found
    if limit = 0 then
      (pieces.reverse.dropWhile fun s => s.spelling.isEmpty).reverse
    else pieces

/-- Cuts a text at white space. -/
def cutBlanks (t : Text) (limit : Int) : List Scalar :=
  let t := t.dropWhile fun c => c == ' ' || ('\t' ≤ c && c ≤ '\x0d')
  match Regular.ofText? (.ofStyle .rich) "\\s+".toList with
  | some r => cutText r t limit
  | none => []

/-- Ranges are listed sign by sign. -/
example : listedSigns 9 "a-cx".toList = "abcx".toList := by decide +kernel

end KeyMenu.Sh.Snippet
