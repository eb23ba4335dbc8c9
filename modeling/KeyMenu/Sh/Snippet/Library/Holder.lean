import KeyMenu.Sh.Snippet.Library.Value

/-!
# Functions for lists and tables

What snippets can do with lists, with tables and with what variables refer to. Some functions are
given another one that chooses, changes or compares items (`sifted`).
-/

namespace KeyMenu.Sh.Snippet

/-! ### Ends of lists -/

/-- The list that is meant where none is named: the arguments of a function, or those of the
snippet. -/
def usualList : Act Expr := do
  return .variable '@' (if (← get).wantsList.isSome then ['_'] else "ARGV".toList)

/-- The cell of the list that is the first argument. -/
def firstList (i : Inner) (es : List Expr) : Act Nat := do
  match es.head? with
  | some e => holderOf i '@' e
  | none => holderOf i '@' (← usualList)

/-- Puts scalars at the end of a list. -/
def pushed : Routine := fun i _ es => do
  let n ← firstList i es
  let cells ← freshAll (← i.values es.tail)
  let items := (← itemsAt n) ++ cells.toArray
  putCell n (.list items)
  return [.ofNat items.size]

/-- Puts scalars in front of a list. -/
def putInFront : Routine := fun i _ es => do
  let n ← firstList i es
  let cells ← freshAll (← i.values es.tail)
  let items := cells.toArray ++ (← itemsAt n)
  putCell n (.list items)
  return [.ofNat items.size]

/-- Takes the last item away. -/
def lastTaken : Routine := fun i _ es => do
  let n ← firstList i es
  let items ← itemsAt n
  match items.back? with
  | none => return [.undefined]
  | some c =>
      putCell n (.list items.pop)
      return [← scalarAt c]

/-- Takes the first item away. -/
def firstTaken : Routine := fun i _ es => do
  let n ← firstList i es
  let items ← itemsAt n
  match items[0]? with
  | none => return [.undefined]
  | some c =>
      putCell n (.list (items.extract 1 items.size))
      return [← scalarAt c]

/-- Puts scalars in place of some items. -/
def spliced : Routine := fun i wants es => do
  let n ← firstList i es
  let items ← itemsAt n
  let size := items.size
  let start ← match (es.drop 1).head? with
    | some e => i.int e
    | none => pure 0
  let count ← match (es.drop 2).head? with
    | some e => some <$> i.int e
    | none => pure none
  let cells ← freshAll (← i.values (es.drop 3))
  match partBounds? size start count with
  | none => die "Modification of non-creatable array value attempted".toList
  | some (first, last) =>
      putCell n (.list (items.extract 0 first ++ cells.toArray ++ items.extract last size))
      let gone ← (items.extract first last).toList.mapM scalarAt
      return if wants then gone else [gone.getLast?.getD .undefined]

/-! ### Keys and entries -/

/-- An expression stands for a list. -/
def isListExpr : Expr → Bool
  | .variable '@' _ => true
  | .dereference '@' _ => true
  | _ => false

/-- The keys of a table, or the numbers of the items of a list. -/
def keysOf : Routine := fun i wants es => do
  let e := firstOr es
  if isListExpr e then
    let items ← itemsAt (← holderOf i '@' e)
    return if wants then (List.range items.size).map .ofNat else [.ofNat items.size]
  else
    let n ← holderOf i '%' e
    let entries ← entriesAt n
    modify fun m => { m with places := m.places.erase n }
    return if wants then entries.map fun (key, _) => .text key else [.ofNat entries.length]

/-- The values of a table, or the items of a list. -/
def valuesOf : Routine := fun i wants es => do
  let e := firstOr es
  let cells ← if isListExpr e then do pure (← itemsAt (← holderOf i '@' e)).toList
    else do pure ((← entriesAt (← holderOf i '%' e)).map Prod.snd)
  if wants then cells.mapM scalarAt else return [.ofNat cells.length]

/-- The next key and value of a table, or the next number and item of a list. -/
def nextEntry : Routine := fun i _ es => do
  let e := firstOr es
  let n ← holderOf i (if isListExpr e then '@' else '%') e
  let pairs ← if isListExpr e then do
      pure ((← itemsAt n).toList.mapIdx fun k c => (Text.ofNat k, c))
    else entriesAt n
  let place := ((← get).places[n]?).getD 0
  match pairs[place]? with
  | none =>
      modify fun m => { m with places := m.places.erase n }
      return []
  | some (key, c) =>
      modify fun m => { m with places := m.places.insert n (place + 1) }
      return [.text key, ← scalarAt c]

/-- Removes an entry of a table. -/
def removeEntry (n : Nat) (key : Text) : Act Scalar := do
  let entries ← entriesAt n
  match Table.get? entries key with
  | none => return .undefined
  | some c =>
      putCell n (.table (entries.filter (·.1 != key)))
      scalarAt c

/-- Removes entries and items. -/
def removed : Routine := fun i _ es => do
  match es.head? with
  | some (.entry table key) =>
      let n ← holderOf i '%' table
      return [← removeEntry n (← keyOf i key)]
  | some (.entries table keys) =>
      let n ← holderOf i '%' table
      (← i.evaluate true keys).mapM fun key => removeEntry n key.spelling
  | some (.item list index) =>
      let n ← holderOf i '@' list
      let items ← itemsAt n
      match itemNumber items.size (← i.int index) with
      | none => return [.undefined]
      | some k =>
          match items[k]? with
          | none => return [.undefined]
          | some c =>
              let s ← scalarAt c
              if k + 1 = items.size then putCell n (.list items.pop)
              else putCell n (.list (items.setIfInBounds k (← fresh (.scalar .undefined))))
              return [s]
  | some (.saved e) => i.evaluate false (.function "delete".toList [e])
  | _ => die "delete argument is not a HASH or ARRAY element or slice".toList

/-- Whether an entry, an item or a function is there. -/
def isThere : Routine := fun i _ es => do
  match es.head? with
  | some (.entry table key) =>
      let n ← holderOf i '%' table
      let key ← keyOf i key
      return [.ofBool (Table.get? (← entriesAt n) key).isSome]
  | some (.item list index) =>
      let n ← holderOf i '@' list
      let items ← itemsAt n
      let k := itemNumber items.size (← i.int index)
      return [.ofBool (k.any (· < items.size))]
  | some (.variable '&' name) => return [.ofBool ((← get).shared.contains ('&' :: name))]
  | some (.call name _) => return [.ofBool ((← get).shared.contains ('&' :: name))]
  | _ => die "exists argument is not a HASH or ARRAY element or a subroutine".toList

/-- Whether there is something. -/
def isSomething : Routine := fun i _ es => do
  match firstOr es with
  | .variable '&' name => return [.ofBool ((← get).shared.contains ('&' :: name))]
  | .variable '@' name => return [.ofBool (!(← itemsAt (← cellOf '@' name)).isEmpty)]
  | .variable '%' name => return [.ofBool (!(← entriesAt (← cellOf '%' name)).isEmpty)]
  | e => return [.ofBool (← i.value e).isDefined]

/-- Nothing; what is named is made to hold nothing. -/
def madeEmpty : Routine := fun i _ es => do
  match es.head? with
  | none => return [.undefined]
  | some (.variable '&' name) =>
      modify fun m => { m with shared := m.shared.erase ('&' :: name) }
      return [.undefined]
  | some e =>
      if isListTarget e then
        let _ ← assignList i e []
      else putScalar (← i.cell e) .undefined
      return [.undefined]

/-- The kind of what a scalar refers to. -/
def kindOf : Routine := fun i _ es => do
  match ← i.value (firstOr es) with
  | .place sign n =>
      if sign ≠ '$' then return [.text (Scalar.kindName sign)]
      else
        match ← scalarAt n with
        | .place _ _ => return [.text "REF".toList]
        | _ => return [.text "SCALAR".toList]
  | .file _ => return [.text "GLOB".toList]
  | _ => return [.text []]

/-- Whether a function is to give a list. -/
def isListWanted : Routine := fun _ _ _ => do
  match (← get).wantsList with
  | some b => return [.ofBool b]
  | none => return [.undefined]

/-! ### What has another function as its first argument -/

/-- Lets a shared name stand for a cell while something is done. -/
def standingFor {α : Type} (name : Text) (n : Nat) (a : Act α) : Act α := do
  let key := '$' :: name
  let before := (← get).shared[key]?
  modify fun m => { m with shared := m.shared.insert key n }
  let result ← attempted a
  modify fun m => { m with shared := match before with
    | some n => m.shared.insert key n
    | none => m.shared.erase key }
  match result with
  | .ok x => return x
  | .error ending => throw ending

/-- What the function of a sieve gives. -/
def bodyValues (i : Inner) (body : Expr) (wants : Bool) : Act (List Scalar) := do
  match body with
  | .newFunction [.expression _ e] => inScope (i.evaluate wants e)
  | .newFunction statements => inScope (i.run wants statements)
  | e =>
      match ← i.value e with
      | .place '&' n => callCell i n [] wants
      | s => callName i s.spelling [] wants

/-- What the function of a sieve gives for two scalars. -/
def ofTwo (i : Inner) (body : Expr) (a b : Nat) : Act Scalar := do
  let values ← standingFor ['a'] a (standingFor ['b'] b (bodyValues i body false))
  return (values.getLast?).getD .undefined

/-- Two sorted lists as one. -/
def mergeWith (isAfter : Nat → Nat → Act Bool) : Nat → List Nat → List Nat → List Nat →
    Act (List Nat)
  | 0, done, xs, ys => return done.reverse ++ xs ++ ys
  | _ + 1, done, [], ys => return done.reverse ++ ys
  | _ + 1, done, xs, [] => return done.reverse ++ xs
  | fuel + 1, done, x :: xs, y :: ys => do
      if ← isAfter x y then mergeWith isAfter fuel (y :: done) (x :: xs) ys
      else mergeWith isAfter fuel (x :: done) xs (y :: ys)

/-- Sorts cells; what is equal stays in order. -/
def sortWith (isAfter : Nat → Nat → Act Bool) : Nat → List Nat → Act (List Nat)
  | 0, xs => return xs
  | fuel + 1, xs => do
      if xs.length < 2 then return xs
      else
        let half := xs.length / 2
        let first ← sortWith isAfter fuel (xs.take half)
        let second ← sortWith isAfter fuel (xs.drop half)
        mergeWith isAfter xs.length [] first second

/-- The cells of sorted items. -/
def sortedCells (i : Inner) (body : Expr) (cells : List Nat) : Act (List Nat) := do
  match body with
  | .list [] =>
      let pairs ← cells.mapM fun n => do return ((← scalarAt n).spelling, n)
      return (pairs.mergeSort fun a b => Text.le a.1 b.1).map Prod.snd
  | body => sortWith (fun x y => do return decide (0 < (← ofTwo i body x y).int)) 64 cells

/-- The first cell for which the function of a sieve gives something true, or not so. -/
def firstWith (i : Inner) (body : Expr) (holds : Bool) : List Nat → Act (Option Nat)
  | [] => return none
  | n :: cells => do
      let values ← standingFor ['_'] n (bodyValues i body false)
      if ((values.getLast?).getD .undefined).isTrue = holds then return some n
      else firstWith i body holds cells

/-- What a sieve makes of its arguments. -/
def sifted (i : Inner) (wants : Bool) (kind : Sieve) (body : Expr) (es : List Expr) :
    Act (List Scalar) := do
  let cells ← allCells i es
  let given (values : List Scalar) : List Scalar :=
    if wants then values else [.ofNat values.length]
  match kind with
  | .map =>
      let all ← cells.mapM fun n => standingFor ['_'] n (bodyValues i body true)
      return given all.flatten
  | .grep =>
      let kept ← cells.filterM fun n => do
        let values ← standingFor ['_'] n (bodyValues i body false)
        return ((values.getLast?).getD .undefined).isTrue
      given <$> kept.mapM scalarAt
  | .sort => given <$> (← sortedCells i body cells).mapM scalarAt
  | .first =>
      match ← firstWith i body true cells with
      | some n => return [← scalarAt n]
      | none => return [.undefined]
  | .any => return [.ofBool (← firstWith i body true cells).isSome]
  | .all => return [.ofBool (← firstWith i body false cells).isNone]
  | .reduce =>
      match cells with
      | [] => return [.undefined]
      | n :: rest =>
          let last ← rest.foldlM (fun a b => do fresh (.scalar (← ofTwo i body a b))) n
          return [← scalarAt last]

/-! ### Values of lists -/

/-- The scalar of a list that goes before all others. -/
def foremost (f : Scalar → Scalar → Scalar) : Routine := onValues fun values =>
  match values with
  | [] => .undefined
  | s :: rest => rest.foldl f s

/-- Adds two scalars up. -/
def added (a b : Scalar) : Scalar := (Operator.add.apply a b).toOption.getD .undefined

/-- Multiplies two scalars. -/
def multiplied (a b : Scalar) : Scalar := (Operator.multiply.apply a b).toOption.getD .undefined

/-- One of two scalars. -/
def chosen (op : Operator) (a b : Scalar) : Scalar :=
  match op.apply b a with
  | .ok s => if s.isTrue then b else a
  | .error _ => a

/-- Scalars without those that have come before. -/
def distinct : Routine := fun i wants es => do
  let values ← i.values es
  let kept := values.foldl (fun (kept : List Scalar) s =>
    if kept.any (·.spelling == s.spelling) then kept else s :: kept) []
  return if wants then kept.reverse else [.ofNat kept.length]

/-- The functions for lists and tables. -/
def holderRoutines : List (String × Routine) :=
  [("push", pushed), ("unshift", putInFront), ("pop", lastTaken), ("shift", firstTaken),
    ("splice", spliced), ("keys", keysOf), ("values", valuesOf), ("each", nextEntry),
    ("delete", removed), ("exists", isThere), ("defined", isSomething), ("undef", madeEmpty),
    ("ref", kindOf), ("wantarray", isListWanted),
    ("scalar", fun i _ es => do return [← i.value (firstOr es)]),
    ("sum", onValues fun values =>
      if values.isEmpty then .undefined else values.foldl added (.ofInt 0)),
    ("sum0", onValues (·.foldl added (.ofInt 0))),
    ("product", onValues (·.foldl multiplied (.ofInt 1))), ("max", foremost (chosen .more)),
    ("min", foremost (chosen .less)), ("maxstr", foremost (chosen .textMore)),
    ("minstr", foremost (chosen .textLess)), ("uniq", distinct),
    ("shuffle", fun i _ es => i.values es), ("lock", fun _ _ _ => return [.ofInt 1]),
    ("blessed", fun _ _ _ => return [.undefined])]

end KeyMenu.Sh.Snippet
