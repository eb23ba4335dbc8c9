import KeyMenu.Sh.Snippet.Machine

/-!
# Places of snippets

An expression may stand for a cell: that of a scalar (`Inner.cell`), or that of a list or a table
(`holderOf`), which are made where there are none yet. Lists and tables are read and written here,
and what several expressions stand for is assigned (`assignList`).
-/

namespace KeyMenu.Sh.Snippet

/-- How expressions are computed, for one value or for a list of them, how statements and functions
are carried out, and how commands are run. -/
structure Inner where
  evaluate : Bool → Expr → Act (List Scalar)
  cell : Expr → Act Nat
  run : Bool → List Statement → Act (List Scalar)
  runners : Runners

/-- The scalar of an expression. -/
def Inner.value (i : Inner) (e : Expr) : Act Scalar := do
  return ((← i.evaluate false e).getLast?).getD .undefined

/-- The text of an expression. -/
def Inner.text (i : Inner) (e : Expr) : Act Text := do return (← i.value e).spelling

/-- The whole number of an expression. -/
def Inner.int (i : Inner) (e : Expr) : Act Int := do return (← i.value e).int

/-- The scalars of several expressions. -/
def Inner.values (i : Inner) (es : List Expr) : Act (List Scalar) := do
  return (← es.mapM (i.evaluate true)).flatten

/-- The scalar of a name is computed and does not lie in a cell. -/
def isComputed (name : Text) : Bool :=
  match name with
  | [c] => c.isDigit && c ≠ '0' || "&\x60\x27+!.$<>]".toList.contains c
  | '^' :: _ => true
  | name => name.all Char.isDigit

/-- An expression stands for a scalar cell. -/
def isPlace : Expr → Bool
  | .variable '$' _ => true
  | .item _ _ => true
  | .entry _ _ => true
  | .dereference '$' _ => true
  | .own _ _ false => true
  | _ => false

/-- The cell to which the scalar of an expression leads; it is made where there is nothing yet. -/
def placeIn (i : Inner) (sign : Char) (e : Expr) : Act Nat := do
  let wrong {α : Type} : Act α :=
    die ("Not a".toList ++ (if sign = '@' then ['n', ' '] else [' ']) ++ Scalar.kindName sign ++
      " reference".toList)
  let follow (s : Scalar) : Act (Option Nat) := do
    match s with
    | .place found n => if found = sign || sign = '&' then return some n else wrong
    | .undefined => return none
    | .file _ => wrong
    | s => some <$> cellOf sign s.spelling
  if isPlace e then
    let c ← i.cell e
    match ← follow (← scalarAt c) with
    | some n => return n
    | none =>
        let n ← fresh (emptyCell sign)
        putScalar c (.place sign n)
        return n
  else
    match ← follow (← i.value e) with
    | some n => return n
    | none => fresh (emptyCell sign)

/-- The cell of a list or a table. -/
def holderOf (i : Inner) (sign : Char) (e : Expr) : Act Nat := do
  match e with
  | .variable s name => cellOf s name
  | .dereference s inner => placeIn i s inner
  | .own isShared [(s, name)] _ => ownCell isShared s name
  | .saved (.variable s name) => putAside s name
  | e => placeIn i sign e

/-- New cells for scalars. -/
def freshAll (values : List Scalar) : Act (List Nat) := values.mapM fun s => fresh (.scalar s)

/-- Gives a list other items. -/
def setList (n : Nat) (values : List Scalar) : Act Unit := do
  putCell n (.list (← freshAll values).toArray)

/-- The table of keys and values that follow each other. -/
def tableOf : List Scalar → Table Nat → Act (Table Nat)
  | [], entries => return entries
  | [key], entries => return Table.put entries key.spelling (← fresh (.scalar .undefined))
  | key :: value :: rest, entries => do
      let c ← fresh (.scalar value)
      tableOf rest (Table.put entries key.spelling c)

/-- Gives a table other entries. -/
def setTable (n : Nat) (values : List Scalar) : Act Unit := do
  putCell n (.table (← tableOf values []))

/-- The number of an item, counted from the end where it is below zero. -/
def itemNumber (size : Nat) (k : Int) : Option Nat :=
  let k := if k < 0 then k + size else k
  if k < 0 then none else some k.toNat

/-- The cell of an item of a list, which is made if it has to. -/
def itemCell (n : Nat) (k : Int) : Act Nat := do
  let items ← itemsAt n
  match itemNumber items.size k with
  | none => die "Modification of non-creatable array value attempted".toList
  | some k =>
      match items[k]? with
      | some c => return c
      | none =>
          let more ← freshAll (List.replicate (k + 1 - items.size) .undefined)
          let items := items ++ more.toArray
          putCell n (.list items)
          return (items[k]?).getD 0

/-- An item of a list, if it is there. -/
def itemAt (n : Nat) (k : Int) : Act Scalar := do
  let items ← itemsAt n
  match (itemNumber items.size k).bind (items[·]?) with
  | some c => scalarAt c
  | none => return .undefined

/-- The cell of an entry of a table, which is made if it has to. -/
def entryCell (n : Nat) (key : Text) : Act Nat := do
  let entries ← entriesAt n
  match Table.get? entries key with
  | some c => return c
  | none =>
      let c ← fresh (.scalar .undefined)
      putCell n (.table (Table.put entries key c))
      return c

/-- An entry of a table, if it is there. -/
def entryAt (n : Nat) (key : Text) : Act Scalar := do
  match Table.get? (← entriesAt n) key with
  | some c => scalarAt c
  | none => return .undefined

/-- The key for expressions between braces. -/
def keyOf (i : Inner) (e : Expr) : Act Text := do
  match e with
  | .list (a :: b :: rest) =>
      return Text.joinWith ['\x1c'] ((← i.values (a :: b :: rest)).map Scalar.spelling)
  | e => i.text e

/-- The items of a list. -/
def listAt (n : Nat) : Act (List Scalar) := do (← itemsAt n).toList.mapM scalarAt

/-- The keys and values of a table. -/
def pairsAt (n : Nat) : Act (List Scalar) := do
  let pairs ← (← entriesAt n).mapM fun (key, c) => do return [Scalar.text key, ← scalarAt c]
  return pairs.flatten

/-- An expression stands for several places. -/
def isListTarget : Expr → Bool
  | .variable sign _ => sign != '$'
  | .dereference sign _ => sign != '$'
  | .own _ names isList => isList || names.any (·.1 != '$')
  | .list _ => true
  | .items _ _ => true
  | .entries _ _ => true
  | .saved (.variable sign _) => sign != '$'
  | .saved (.list _) => true
  | _ => false

/-- Assigns scalars to a name. -/
def assignName (sign : Char) (n : Nat) (values : List Scalar) : Act (List Scalar) := do
  match sign with
  | '@' =>
      setList n values
      return []
  | '%' =>
      setTable n values
      return []
  | _ =>
      putScalar n (values.headD .undefined)
      return values.tail

/-- Assigns scalars to several places; what is left is given back. -/
def assignList (i : Inner) : Expr → List Scalar → Act (List Scalar)
  | .list es, values => assignAll es values
  | .own isShared names _, values =>
      names.foldlM (fun values (sign, name) => do
        assignName sign (← ownCell isShared sign name) values) values
  | .variable sign name, values => do assignName sign (← cellOf sign name) values
  | .dereference sign inner, values => do assignName sign (← placeIn i sign inner) values
  | .items list indices, values => do
      let n ← holderOf i '@' list
      (← i.evaluate true indices).foldlM (fun values k => do
        putScalar (← itemCell n k.int) (values.headD .undefined)
        return values.tail) values
  | .entries table keys, values => do
      let n ← holderOf i '%' table
      (← i.evaluate true keys).foldlM (fun values k => do
        putScalar (← entryCell n k.spelling) (values.headD .undefined)
        return values.tail) values
  | .saved (.variable sign name), values => do assignName sign (← putAside sign name) values
  | .saved (.list es), values => do
      es.foldlM (fun values e => do
        match e with
        | .variable sign name => assignName sign (← putAside sign name) values
        | _ => return values.tail) values
  | .function name _, values => do
      if name = "undef".toList then return values.tail else die "Can\x27t modify function".toList
  | e, values => do
      putScalar (← i.cell e) (values.headD .undefined)
      return values.tail
where
  /-- Assigns scalars to one place after another. -/
  assignAll : List Expr → List Scalar → Act (List Scalar)
    | [], values => return values
    | e :: es, values => do assignAll es (← assignList i e values)

/-- The cell of a scalar. -/
def cellFor (i : Inner) (e : Expr) : Act Nat := do
  match e with
  | .variable _ name => cellOf '$' name
  | .item list index =>
      let n ← holderOf i '@' list
      itemCell n (← i.int index)
  | .entry table key =>
      let n ← holderOf i '%' table
      entryCell n (← keyOf i key)
  | .dereference _ inner => placeIn i '$' inner
  | .own isShared [(_, name)] _ => ownCell isShared '$' name
  | .saved (.variable _ name) => putAside '$' name
  | .saved inner => i.cell inner
  | .list [e] => i.cell e
  | .choose c yes no => if (← i.value c).isTrue then i.cell yes else i.cell no
  | .assign target _ _ =>
      let _ ← i.evaluate false e
      afterwards target
  | .assignWhen _ target _ =>
      let _ ← i.evaluate false e
      afterwards target
  | .step target true _ =>
      let _ ← i.evaluate false e
      i.cell target
  | e => fresh (.scalar (← i.value e))
where
  /-- The cell to which something has been assigned. -/
  afterwards (target : Expr) : Act Nat := do
    match target with
    | .own _ [(sign, name)] _ => cellOf sign name
    | .saved (.variable sign name) => cellOf sign name
    | target => i.cell target

/-- The places of a target without declaring them once more. -/
def declared : Expr → Expr
  | .own _ names _ => .list (names.map fun (sign, name) => .variable sign name)
  | .saved inner => inner
  | e => e

/-- The cells of an expression, so that they can be changed under another name. -/
def cellsOf (i : Inner) (e : Expr) : Act (List Nat) := do
  match e with
  | .variable '@' name => return (← itemsAt (← cellOf '@' name)).toList
  | .dereference '@' inner => return (← itemsAt (← placeIn i '@' inner)).toList
  | .variable '$' name =>
      if isComputed name then freshAll (← i.evaluate true e) else return [← i.cell e]
  | .item _ _ => return [← i.cell e]
  | .entry _ _ => return [← i.cell e]
  | .assign target _ _ =>
      let values ← i.evaluate true e
      match declared target with
      | .variable '@' name => return (← itemsAt (← cellOf '@' name)).toList
      | .list [.variable '@' name] => return (← itemsAt (← cellOf '@' name)).toList
      | _ => freshAll values
  | .function name [.variable '%' table] =>
      if name = "values".toList then
        return (← entriesAt (← cellOf '%' table)).map Prod.snd
      else freshAll (← i.evaluate true e)
  | e => freshAll (← i.evaluate true e)

/-- The cells of several expressions. -/
def allCells (i : Inner) (es : List Expr) : Act (List Nat) := do
  let found ← es.mapM fun e => do
    match e with
    | .list inner => return (← inner.mapM (cellsOf i)).flatten
    | e => cellsOf i e
  return found.flatten

/-- Calls a function with its arguments in cells. -/
def callCell (i : Inner) (n : Nat) (arguments : List Nat) (wants : Bool) : Act (List Scalar) := do
  match ← cellAt n with
  | .function inSight body =>
      let list ← fresh (.list arguments.toArray)
      let before := (← get).wantsList
      let result ← attempted (inScope do
        modify fun m => { m with
          inSight := (['@', '_'], list) :: inSight.getD m.base
          wantsList := some wants }
        i.run wants body)
      modify fun m => { m with wantsList := before }
      match result with
      | .ok values => return values
      | .error (.leave .giveBack _ values) => return values
      | .error ending => throw ending
  | _ => die "Not a CODE reference".toList

/-- Calls a function of a name. -/
def callName (i : Inner) (name : Text) (arguments : List Nat) (wants : Bool) :
    Act (List Scalar) := do
  match (← get).shared['&' :: name]? with
  | some n => callCell i n arguments wants
  | none => die ("Undefined subroutine &main::".toList ++ name ++ " called".toList)

end KeyMenu.Sh.Snippet
