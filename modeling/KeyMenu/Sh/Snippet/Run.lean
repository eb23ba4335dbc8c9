import KeyMenu.Sh.Snippet.Library.Outside
import KeyMenu.Sh.Snippet.Reader

/-!
# Snippets that run

Every expression gives scalars: one of them, or a list (`evaluate`). Statements are carried out one
after the other, and the last one gives what a function gives (`runAll`). Both need each other, so
many levels inside of each other (`Inner.ofDepth`). `runSnippet` carries out a whole snippet and
tells its status.
-/

namespace KeyMenu.Sh.Snippet

/-! ### What is read -/

/-- What a cell holds that belongs to a sign. -/
def heldBy (i : Inner) (wants : Bool) (sign : Char) (n : Nat) : Act (List Scalar) := do
  match sign with
  | '@' => if wants then listAt n else return [.ofNat (← itemsAt n).size]
  | '%' => if wants then pairsAt n else return [.ofNat (← entriesAt n).length]
  | '&' =>
      let arguments ← itemsAt (← cellOf '@' ['_'])
      callCell i n arguments.toList wants
  | _ => return [← scalarAt n]

/-- The parts of what has been found last that have names. -/
def foundNames : Act (List (Text × Scalar)) := do
  match (← get).found with
  | none => return []
  | some (t, f, names) =>
      return (names.map fun (name, n) => (name, groupScalar t f n)).filter fun (_, s) => s.isDefined

/-- What a name stands for. -/
def ofVariable (i : Inner) (wants : Bool) (sign : Char) (name : Text) : Act (List Scalar) := do
  match sign with
  | '$' =>
      if isComputed name then return [← computed name]
      else return [← scalarAt (← cellOf '$' name)]
  | '&' =>
      match (← get).shared['&' :: name]? with
      | some n => heldBy i wants '&' n
      | none => die ("Undefined subroutine &main::".toList ++ name ++ " called".toList)
  | sign =>
      if sign = '%' && name = ['+'] then
        return (← foundNames).flatMap fun (name, s) => [.text name, s]
      else heldBy i wants sign (← cellOf sign name)

/-- An entry of a table. -/
def ofEntry (i : Inner) (table key : Expr) : Act Scalar := do
  let key ← keyOf i key
  match table with
  | .variable '%' ['+'] => return (Table.get? (← foundNames) key).getD .undefined
  | table => entryAt (← holderOf i '%' table) key

/-- The last of several scalars, unless all of them are wanted. -/
def asWanted (wants : Bool) (values : List Scalar) : List Scalar :=
  if wants then values else [values.getLast?.getD .undefined]

/-- Some items of a list that is given. -/
def pickedFrom (values : List Scalar) (places : List Scalar) : List Scalar :=
  if values.isEmpty then []
  else places.map fun k =>
    (((itemNumber values.length k.int).bind fun k => values[k]?).getD .undefined)

/-- The texts of the parts of a text. -/
def partText (i : Inner) (e : Expr) : Act Text := do
  match e with
  | .text t => return t
  | .joinedList inner =>
      return Text.joinWith (← sharedScalar "\"").spelling ((← i.evaluate true inner).map
          Scalar.spelling)
  | e => i.text e

/-- Texts that count up from one to another one. -/
def textRange (stop : Text) : Nat → Text → List Scalar
  | 0, _ => []
  | fuel + 1, t =>
      if t == stop then [.text t]
      else
        match succeeding? t with
        | some next => if stop.length < next.length then [.text t]
            else .text t :: textRange stop fuel next
        | none => [.text t]

/-- All from one scalar to another one. -/
def rangeOf (a b : Scalar) : List Scalar :=
  let isText (s : Scalar) : Bool := match s with
    | .text t => !t.isEmpty && !isNumeric s
    | _ => false
  if isText a then textRange b.spelling 100000 a.spelling
  else
    let (first, last) := (a.int, b.int)
    (List.range (last + 1 - first).toNat).map fun (k : Nat) => .ofInt (first + Int.ofNat k)

/-- What begins where one condition holds, and ends where another one does. -/
def between (i : Inner) (mark : Nat) (start stop : Expr) : Act Scalar := do
  let holds (e : Expr) : Act Bool := do
    match e with
    | .integer n => return (← computed ['.']).int = n
    | e => return (← i.value e).isTrue
  if !(← get).flipped.contains mark then
    if !(← holds start) then return .ofBool false
    modify fun m => { m with flipped := mark :: m.flipped }
  if ← holds stop then modify fun m => { m with flipped := m.flipped.filter (· != mark) }
  return .ofBool true

/-- What two scalars are computed to. -/
def applied (op : Operator) (a b : Scalar) : Act Scalar := do
  match op.apply a b with
  | .ok s => return s
  | .error message => die message

/-- Two expressions are computed; a list between brackets is repeated as a whole. -/
def computedFrom (i : Inner) (wants : Bool) (op : Operator) (left right : Expr) :
    Act (List Scalar) := do
  match op, left with
  | .times, .list es =>
      if wants then
        let values ← i.values es
        return (List.replicate (← i.int right).toNat values).flatten
      else return [← applied op (← i.value left) (← i.value right)]
  | op, left =>
      let a ← i.value left
      let b ← i.value right
      return [← applied op a b]

/-- A link is decided by its first scalar. -/
def Link.goesOn : Link → Scalar → Bool
  | .whenTrue, s => s.isTrue
  | .whenFalse, s => !s.isTrue
  | .whenUndefined, s => !s.isDefined

/-- A number with the other sign, or a text with a dash in front. -/
def negated (s : Scalar) : Act Scalar := do
  match s with
  | .text t =>
      if t.head?.any fun c => c.isAlpha || c == '_' then return .text ('-' :: t)
      else applied .subtract (.ofInt 0) s
  | s => applied .subtract (.ofInt 0) s

/-! ### What is changed -/

/-- Gives a list another size. -/
def resizeList (n : Nat) (size : Nat) : Act Unit := do
  let items ← itemsAt n
  let more ← freshAll (List.replicate (size - items.size) .undefined)
  putCell n (.list ((items ++ more.toArray).extract 0 size))

/-- Assigns a scalar to a place, which may be part of something. -/
def assignScalar (i : Inner) (target : Expr) (s : Scalar) : Act Unit := do
  match target with
  | .function name es =>
      if name = "substr".toList then
        let _ ← partOfText (some s.spelling) i es
      else die "Can\x27t modify function".toList
  | .lastIndex list => resizeList (← holderOf i '@' list) (s.int + 1).toNat
  | .variable '$' ['!'] => noteFault s.int.toNat
  | .text name =>
      match s with
      | .place sign n => modify fun m => { m with shared := m.shared.insert (sign :: name) n }
      | _ => pure ()
  | target => putScalar (← i.cell target) s

/-- Assigns what an expression gives. -/
def assigned (i : Inner) (wants : Bool) (target value : Expr) : Act (List Scalar) := do
  if isListTarget target then
    let values ← i.evaluate true value
    let _ ← assignList i target values
    if wants then i.evaluate true (declared target) else return [.ofNat values.length]
  else
    let s ← i.value value
    assignScalar i target s
    return [s]

/-- Assigns what is computed from a place and an expression. -/
def reassigned (i : Inner) (target : Expr) (op : Operator) (value : Expr) : Act (List Scalar) := do
  match isListTarget target, op with
  | true, .times =>
      let count ← i.int value
      let values ← i.evaluate true target
      let _ ← assignList i target (List.replicate count.toNat values).flatten
      return []
  | _, op =>
      let b ← i.value value
      let n ← i.cell target
      let s ← applied op (← scalarAt n) b
      putScalar n s
      return [s]

/-- Assigns only if the place holds what leads on to it. -/
def assignedWhen (i : Inner) (wants : Bool) (link : Link) (target value : Expr) :
    Act (List Scalar) := do
  if isListTarget target then
    if link.goesOn (← i.value target) then assigned i wants target value
    else i.evaluate wants target
  else
    let n ← i.cell target
    let s ← scalarAt n
    if link.goesOn s then
      let s ← i.value value
      putScalar n s
      return [s]
    else return [s]

/-- Raises or lowers a variable. -/
def stepped (i : Inner) (target : Expr) (isBefore : Bool) (change : Int) : Act (List Scalar) := do
  let n ← i.cell target
  let s ← scalarAt n
  let next : Option Text := match s with
    | .text t => if change = 1 && !isNumeric s then succeeding? t else none
    | _ => none
  let after ← match next with
    | some t => pure (.text t)
    | none => applied .add s (.ofInt change)
  putScalar n after
  return [if isBefore then after else match s with
    | .undefined => .ofInt 0
    | s => s]

/-! ### References and functions -/

/-- A scalar that refers to something. -/
def referenceTo (i : Inner) (e : Expr) : Act Scalar := do
  match e with
  | .variable '&' name =>
      match (← get).shared['&' :: name]? with
      | some n => return .place '&' n
      | none =>
          let n ← fresh (.scalar .undefined)
          modify fun m => { m with shared := m.shared.insert ('&' :: name) n }
          return .place '&' n
  | .variable '$' name =>
      if isComputed name then return .place '$' (← fresh (.scalar (← i.value e)))
      else return .place '$' (← cellOf '$' name)
  | .variable sign name => return .place sign (← cellOf sign name)
  | .dereference sign inner => return .place sign (← placeIn i sign inner)
  | .own _ [(sign, name)] false =>
      return .place sign (← if sign = '$' then i.cell e else declare sign name)
  | .item _ _ => return .place '$' (← i.cell e)
  | .entry _ _ => return .place '$' (← i.cell e)
  | e => return .place '$' (← fresh (.scalar (← i.value e)))

/-- Calls what an expression gives. -/
def called (i : Inner) (wants : Bool) (f : Expr) (arguments : List Nat) : Act (List Scalar) := do
  match ← i.value f with
  | .place '&' n => callCell i n arguments wants
  | .undefined => die "Can\x27t use an undefined value as a subroutine reference".toList
  | .place _ _ => die "Not a CODE reference".toList
  | s => callName i s.spelling arguments wants

/-- What is done while something may go wrong. -/
def tried (wants : Bool) (a : Act (List Scalar)) : Act (List Scalar) := do
  match ← attempted (inScope a) with
  | .ok values =>
      setShared "@" (.text [])
      return values
  | .error (.leave .giveBack _ values) =>
      setShared "@" (.text [])
      return values
  | .error (.died s) =>
      setShared "@" s
      return if wants then [] else [.undefined]
  | .error ending => throw ending

/-- The statements that count before all others are carried out: functions, and blocks for the
beginning and the end. -/
def earlyOnes : Nat → List Statement → List Statement
  | 0, _ => []
  | fuel + 1, statements => statements.flatMap fun s =>
      match s with
      | .define name body => .define name body :: earlyOnes fuel body
      | .atEnd body => [.atEnd body]
      | .atStart body => [.atStart body]
      | .load name line => [.load name line]
      | .choose branches others =>
          (branches.flatMap fun b => earlyOnes fuel b.2) ++ earlyOnes fuel others
      | .whileTrue _ _ _ body step => earlyOnes fuel body ++ earlyOnes fuel step
      | .steps _ _ _ _ body => earlyOnes fuel body
      | .forEach _ _ _ body => earlyOnes fuel body
      | .block _ body => earlyOnes fuel body
      | _ => []

/-- The modules that can be loaded. -/
def modules : List String :=
  ["strict", "warnings", "utf8", "feature", "List::Util", "POSIX", "Data::Dumper", "File::Basename",
    "Cwd", "Time::HiRes", "Time::Local", "Getopt::Long", "Getopt::Std", "Carp",
      "Scalar::Util", "vars",
    "lib", "constant", "integer", "bytes", "Encode", "File::Spec", "File::Path", "File::Copy",
    "File::Temp", "File::Find", "IO::Handle", "IO::File", "Fcntl", "Errno", "English", "Socket",
    "Storable", "Text::Wrap", "Text::ParseWords", "Text::Abbrev", "Tie::File", "Term::ANSIColor",
    "Digest::MD5", "Digest::SHA", "MIME::Base64", "JSON::PP", "Config", "Symbol", "Benchmark",
    "threads", "bigint", "bignum", "bigrat", "Math::BigInt", "Math::BigFloat",
      "Math::Trig", "overload",
    "base", "parent", "fields", "open", "locale", "less", "sort", "subs", "autodie",
      "mro", "re", "if",
    "diagnostics", "sigtrap", "version", "Test::More", "IPC::Open3", "IPC::Open2", "Sys::Hostname",
    "Env", "Exporter", "Hash::Util", "Time::Piece", "Unicode::Normalize", "charnames",
      "experimental"]

/-- Loads a module. -/
def loads (name : Text) (line : Nat) : Act Unit := do
  let isVersion := name.head? = some 'v' && (name.drop 1).all Char.isDigit
  if name.isEmpty || isVersion || modules.any (·.toList == name) then pure ()
  else
    modify fun m => { m with offset := line }
    noteFault 2
    die ("Can\x27t locate ".toList ++ path name ++ ".pm in @INC".toList)
where
  /-- The path of a module. -/
  path : Text → Text
    | ':' :: ':' :: rest => '/' :: path rest
    | c :: rest => c :: path rest
    | [] => []

/-- Does what counts before all statements. -/
def prepare (i : Inner) (statements : List Statement) : Act Unit := do
  (earlyOnes 100 statements).forM fun s => do
    match s with
    | .define name body =>
        let key := '&' :: name
        match (← get).shared[key]? with
        | some n => putCell n (.function none body)
        | none =>
            let n ← fresh (.function none body)
            modify fun m => { m with shared := m.shared.insert key n }
    | .atEnd body => modify fun m => { m with endings := body :: m.endings }
    | .atStart body =>
        let _ ← inScope (i.run false body)
    | .load name line => loads name line
    | _ => pure ()

/-- Carries out a text. -/
def carriedOut (i : Inner) (wants : Bool) (t : Text) : Act (List Scalar) := do
  match programOf t with
  | .ok statements =>
      prepare i statements
      i.run wants statements
  | .error (line, message) =>
      throw (.died (.text (message ++ " at (eval 1) line ".toList ++ Text.ofNat line ++
          ".\n".toList)))

/-- Loads a module or carries out a file. -/
def required (i : Inner) (wants : Bool) (es : List Expr) : Act (List Scalar) := do
  let path? : Option Expr := match es.head? with
    | some (.function name []) => if modules.any (·.toList == name) then none else some (.text name)
    | some (.text t) => some (.text t)
    | some (.variable sign name) => some (.variable sign name)
    | _ => none
  match path? with
  | none => return [.ofInt 1]
  | some e =>
      let path ← i.text e
      match (← get).state.textAt path with
      | .ok (s, t) =>
          change fun _ => s
          carriedOut i wants t
      | .error _ =>
          loads path (← get).offset
          return [.ofInt 1]

/-- Calls a function by its name: one that has been defined, or one that is always there. -/
def ofFunction (i : Inner) (wants : Bool) (name : Text) (es : List Expr) : Act (List Scalar) := do
  let own := (← get).shared['&' :: name]?
  match own, routine? name with
  | some n, some r =>
      if moduleNames.any (·.toList == name) then callCell i n (← allCells i es) wants
      else return asWanted wants (← r i wants es)
  | some n, none => callCell i n (← allCells i es) wants
  | none, some r => return asWanted wants (← r i wants es)
  | none, none =>
      if name = "require".toList then required i wants es
      else if name = "eval".toList then
        let t ← i.text (firstOr es)
        tried wants (carriedOut i wants t)
      else return [.text name]

/-! ### What is shown -/

/-- Shows scalars. -/
def shows (i : Inner) (kind : Showing) (file : Option Expr) (es : List Expr) :
    Act (List Scalar) := do
  let values ← if es.isEmpty then i.evaluate false defaultVariable else i.values es
  let t ← match kind, values with
    | .format, format :: rest => pure (formatted format.spelling rest)
    | .format, [] => pure []
    | kind, values => do
        let between := (← sharedScalar ",").spelling
        let after := (← sharedScalar "\\").spelling
        let t := Text.joinWith between (values.map Scalar.spelling)
        pure (t ++ (if kind = .line then ['\n'] else []) ++ after)
  let name ← match file with
    | some e => handleName i e
    | none => pure "STDOUT".toList
  let isDone ← writeTo name t
  if (← sharedScalar "|").isTrue then flush
  return [.ofBool isDone]

/-- What a command writes: as a text, or line by line. -/
def outputLines (i : Inner) (wants : Bool) (e : Expr) : Act (List Scalar) := do
  let t ← outputOf i.runners (← i.text e)
  if !wants then return [.text t]
  else
    let lines := t.splitBy fun a _ => a != '\n'
    return lines.map .text

/-- What is done with a file that stands in front of an arrow. -/
def methodOf (i : Inner) (target : Expr) (name : Text) (es : List Expr) : Act (List Scalar) := do
  match String.ofList name with
  | "print" => shows i .plain (some target) es
  | "printf" => shows i .format (some target) es
  | "say" => shows i .line (some target) es
  | "close" => closes i false [target]
  | "getline" => linesRead i false target
  | "autoflush" =>
      setShared "|" (.ofInt 1)
      return [.ofInt 1]
  | "flush" => return [.ofInt 1]
  | "binmode" => return [.ofInt 1]
  | "import" => return []
  | _ =>
      let s ← i.value target
      die ("Can\x27t locate object method \"".toList ++ name ++ "\" via package \"".toList ++
        s.spelling ++ "\" (perhaps you forgot to load \"".toList ++ s.spelling ++ "\"?)".toList)

/-- A loop or a function is left. -/
def left (i : Inner) (how : Leaving) (label : Text) (value : Option Expr) : Act (List Scalar) := do
  let values ← match value with
    | some e =>
        let wants := ((← get).wantsList).getD false
        pure (asWanted wants (← i.evaluate wants e))
    | none => pure []
  throw (.leave how label values)

/-! ### Expressions -/

/-- What an expression that only reads gives. -/
def reading (i : Inner) (wants : Bool) (e : Expr) : Act (List Scalar) := do
  match e with
  | .number x => return [.number (.fraction x)]
  | .integer n => return [.ofInt n]
  | .text t => return [.text t]
  | .joined parts => return [.text (← parts.mapM (partText i)).flatten]
  | .joinedList inner => return [.text (← partText i (.joinedList inner))]
  | .variable sign name => ofVariable i wants sign name
  | .dereference sign inner => heldBy i wants sign (← placeIn i sign inner)
  | .item list index => return [← itemAt (← holderOf i '@' list) (← i.int index)]
  | .entry table key => return [← ofEntry i table key]
  | .items list indices =>
      let n ← holderOf i '@' list
      asWanted wants <$> (← i.evaluate true indices).mapM fun k => itemAt n k.int
  | .entries table keys =>
      let n ← holderOf i '%' table
      asWanted wants <$> (← i.evaluate true keys).mapM fun k => entryAt n k.spelling
  | .pick list indices =>
      let values ← i.evaluate true list
      return asWanted wants (pickedFrom values (← i.evaluate true indices))
  | .lastIndex list => return [.ofInt ((← itemsAt (← holderOf i '@' list)).size - 1)]
  | .readLine file => linesRead i wants file
  | .command inner => outputLines i wants inner
  | .fileTest letter inner => testedFile i letter inner
  | .pattern inner flags =>
      let t ← i.text inner
      return [.text ("(?^".toList ++ flags ++ [':'] ++ t ++ [')'])]
  | .fits target p flags => fitted i wants target p flags
  | _ => return []

/-- What an expression that changes something gives. -/
def changing (i : Inner) (wants : Bool) (e : Expr) : Act (List Scalar) := do
  match e with
  | .own isShared names _ =>
      let cells ← names.mapM fun (sign, name) => do
        ownCell isShared sign name
      return cells.map fun _ => .undefined
  | .saved inner =>
      if isListTarget inner then
        let _ ← assignList i (.saved inner) []
        return []
      else
        let n ← i.cell (.saved inner)
        return [← scalarAt n]
  | .assign target none value => assigned i wants target value
  | .assign target (some op) value => reassigned i target op value
  | .assignWhen link target value => assignedWhen i wants link target value
  | .step target isBefore change => stepped i target isBefore change
  | .replace target p by' flags => replaced i target p by' flags
  | .exchange target signs others flags => exchanged i target signs others flags
  | .show kind file es => shows i kind file es
  | _ => return []

/-- What an expression that is made of others gives. -/
def composing (i : Inner) (wants : Bool) (e : Expr) : Act (List Scalar) := do
  match e with
  | .compute op a b => computedFrom i wants op a b
  | .linked link a b =>
      let s ← i.value a
      if link.goesOn s then i.evaluate wants b else return [s]
  | .not inner => return [.ofBool (!(← i.value inner).isTrue)]
  | .negate inner => return [← negated (← i.value inner)]
  | .complement inner =>
      return [.ofInt (18446744073709551615 - Int.emod (← i.int inner) 18446744073709551616)]
  | .choose c yes no => if (← i.value c).isTrue then i.evaluate wants yes else i.evaluate wants no
  | .range mark start stop =>
      if wants then return rangeOf (← i.value start) (← i.value stop)
      else return [← between i mark start stop]
  | .list es =>
      if wants then i.values es
      else
        let values ← es.mapM (i.evaluate false)
        return [((values.getLast?.getD []).getLast?).getD .undefined]
  | .newList es =>
      let n ← fresh (.list #[])
      setList n (← i.values es)
      return [.place '@' n]
  | .newTable es =>
      let n ← fresh (.table [])
      setTable n (← i.values es)
      return [.place '%' n]
  | .newFunction body => return [.place '&' (← fresh (.function (some (← get).inSight) body))]
  | .reference (.list es) => es.mapM (referenceTo i)
  | .reference inner => return [← referenceTo i inner]
  | _ => return []

/-- What an expression gives. -/
def evaluate (i : Inner) (wants : Bool) (e : Expr) : Act (List Scalar) := do
  match e with
  | .call name es =>
      match (← get).shared['&' :: name]? with
      | some n => return asWanted wants (← callCell i n (← allCells i es) wants)
      | none =>
          match routine? name with
          | some r => r i wants es
          | none => callName i name [] wants
  | .apply f es => return asWanted wants (← called i wants f (← allCells i es))
  | .function name es => ofFunction i wants name es
  | .sieve kind body es => sifted i wants kind body es
  | .block body => inScope (i.run wants body)
  | .trial body => tried wants (i.run wants body)
  | .leave how label value => left i how label value
  | .method target name es => methodOf i target name es
  | .own _ _ _ => changing i wants e
  | .saved _ => changing i wants e
  | .assign _ _ _ => changing i wants e
  | .assignWhen _ _ _ => changing i wants e
  | .step _ _ _ => changing i wants e
  | .replace _ _ _ _ => changing i wants e
  | .exchange _ _ _ _ => changing i wants e
  | .show _ _ _ => changing i wants e
  | .compute _ _ _ => composing i wants e
  | .linked _ _ _ => composing i wants e
  | .not _ => composing i wants e
  | .negate _ => composing i wants e
  | .complement _ => composing i wants e
  | .choose _ _ _ => composing i wants e
  | .range _ _ _ => composing i wants e
  | .list _ => composing i wants e
  | .newList _ => composing i wants e
  | .newTable _ => composing i wants e
  | .newFunction _ => composing i wants e
  | .reference _ => composing i wants e
  | e => reading i wants e

/-! ### Statements -/

/-- A round of a loop; whether there is to be another one is told. -/
def roundOf (label : Text) (body : Act Unit) : Nat → Act Bool
  | 0 => throw .halted
  | fuel + 1 => do
      match ← attempted body with
      | .ok _ => return true
      | .error (.leave how other values) =>
          if !other.isEmpty && other != label then throw (.leave how other values)
          match how with
          | .next => return true
          | .last => return false
          | .redo => roundOf label body fuel
          | .giveBack => throw (.leave how other values)
      | .error ending => throw ending

/-- Carries out a block once, unless it is to be done again. -/
def onceOf (i : Inner) (wants : Bool) (label : Text) (body : List Statement) :
    Act (List Scalar) := do
  match ← attempted (inScope (i.run wants body)) with
  | .ok values => return values
  | .error (.leave how other values) =>
      if how matches .giveBack then throw (.leave how other values)
      else if !other.isEmpty && other != label then throw (.leave how other values)
      else
        if how matches .redo then
          untilDone (do
            let _ ← roundOf label (do let _ ← inScope (i.run false body)) roundFuel
            return false)
        return []
  | .error ending => throw ending

/-- The condition of a loop: what is read for it only has to be there. -/
def loopHolds (i : Inner) (condition : Expr) : Act Bool := do
  let isRead (e : Expr) : Bool := match e with
    | .readLine _ => true
    | .function name _ => name = "readdir".toList || name = "glob".toList
    | _ => false
  match condition with
  | .assign target none value =>
      let s ← i.value condition
      return if isRead value && !isListTarget target then s.isDefined else s.isTrue
  | e =>
      if isRead e then return (← i.value (.assign defaultVariable none e)).isDefined
      else return (← i.value e).isTrue

/-- A loop as long as a condition holds. -/
def loops (i : Inner) (label : Text) (condition : Expr) (isNegated : Bool)
    (body step : List Statement) : Act Unit :=
  untilDone (inScope do
    if (← loopHolds i condition) = isNegated then return false
    else
      let goesOn ← roundOf label (do let _ ← i.run false body) roundFuel
      if goesOn then
        let _ ← i.run false step
      return goesOn)

/-- A loop with steps. -/
def loopsBySteps (i : Inner) (label : Text) (start : Expr) (condition : Option Expr) (step : Expr)
    (body : List Statement) : Act Unit :=
  inScope do
    let _ ← i.evaluate false start
    untilDone do
      let holds ← match condition with
        | some e => loopHolds i e
        | none => pure true
      if !holds then return false
      else
        let goesOn ← roundOf label (do let _ ← inScope (i.run false body)) roundFuel
        if goesOn then
          let _ ← i.evaluate false step
        return goesOn

/-- A loop over cells: a name stands for each of them in turn. -/
def loopsOver (i : Inner) (label : Text) (isOwn : Bool) (name : Text) (body : List Statement) :
    List Nat → Act Unit
  | [] => return ()
  | n :: cells => do
      let once : Act Unit := do let _ ← i.run false body
      let round : Act Unit :=
        if isOwn then inScope do
            modify fun m => { m with inSight := ('$' :: name, n) :: m.inSight }
            once
        else standingFor name n (inScope once)
      if ← roundOf label round roundFuel then loopsOver i label isOwn name body cells

/-- The first of several branches whose condition holds. -/
def branch (i : Inner) (wants : Bool) (others : List Statement) :
    List (Expr × List Statement) → Act (List Scalar)
  | [] => i.run wants others
  | (c, body) :: rest => do
      let s ← i.value c
      if s.isTrue then inScope (i.run wants body)
      else if rest.isEmpty && others.isEmpty then return [s]
      else branch i wants others rest

/-- Gives a function the names that it sees where it is defined. -/
def redefine (name : Text) (body : List Statement) : Act Unit := do
  let m ← get
  if m.depth ≠ 0 then
    match m.shared['&' :: name]? with
    | some n => putCell n (.function (some m.inSight) body)
    | none => pure ()

/-- Carries out a statement. -/
def runStatement (i : Inner) (wants : Bool) (s : Statement) : Act (List Scalar) := do
  match s with
  | .expression line e =>
      if line ≠ 0 then modify fun m => { m with offset := line }
      i.evaluate wants e
  | .choose [(c, [.expression line e])] [] =>
      if line ≠ 0 then modify fun m => { m with offset := line }
      let s ← i.value c
      if s.isTrue then i.evaluate wants e else return [s]
  | .choose branches others => inScope (branch i wants others branches)
  | .whileTrue label c isNegated body step =>
      loops i label c isNegated body step
      return []
  | .atLeastOnce body c isNegated =>
      untilDone (do
        let _ ← i.evaluate false body
        return (← i.value c).isTrue != isNegated)
      return []
  | .steps label start c step body =>
      loopsBySteps i label start c step body
      return []
  | .forEach label name items body =>
      let cells ← allCells i [items]
      let (isOwn, name) := name.getD (false, ['_'])
      let isOwn := isOwn || (Table.get? (← get).inSight ('$' :: name)).isSome
      loopsOver i label isOwn name body cells
      return []
  | .block label body => onceOf i wants label body
  | .define name body =>
      redefine name body
      return []
  | _ => return []

/-- Carries out statements; the last one gives what all of them give. -/
def runAll (i : Inner) (wants : Bool) : List Statement → Act (List Scalar)
  | [] => return []
  | [s] => runStatement i wants s
  | s :: rest => do
      let _ ← runStatement i false s
      runAll i wants rest

/-- There is no room for what lies deeper. -/
def overrun {α : Type} : Act α := do
  change (·.exhausted)
  throw .halted

/-- What is needed for expressions and statements, so many of them inside of each other. -/
def Inner.ofDepth (runners : Runners) : Nat → Inner
  | 0 => ⟨fun _ _ => overrun, fun _ => overrun, fun _ _ => overrun, runners⟩
  | n + 1 =>
      ⟨fun wants e => Snippet.evaluate (ofDepth runners n) wants e, fun e =>
        cellFor (ofDepth runners n) e,
        fun wants body => runAll (ofDepth runners n) wants body, runners⟩

/-- Expressions and statements lie at most so deep inside of each other. -/
def depthLimit : Nat := 30000

/-! ### Whole snippets -/

/-- Notes how a snippet, or a part of it, has ended. -/
def settle (result : Except Ending Unit) : Act Unit := do
  match result with
  | .ok _ => pure ()
  | .error (.died s) =>
      let m ← get
      let before := (← sharedScalar "?").int
      let status : Int := if m.errorNumber % 256 ≠ 0 then m.errorNumber
        else if before / 256 % 256 ≠ 0 then before / 256 else 255
      let _ ← writeTo "STDERR".toList s.spelling
      modify fun m => { m with status := status }
  | .error (.leave _ _ _) =>
      let t ← placed "Can\x27t leave a block that is none".toList
      let _ ← writeTo "STDERR".toList t
      modify fun m => { m with status := 255 }
  | .error .exited => pure ()
  | .error ending => throw ending

/-- Does what is to be done at the end. -/
def finish (i : Inner) : Nat → Act Unit
  | 0 => return ()
  | fuel + 1 => do
      match (← get).endings with
      | [] => return ()
      | body :: rest =>
          modify fun m => { m with endings := rest, inSight := m.base, depth := 1 }
          setShared "?" (.ofInt (← get).status)
          let result ← attempted (do let _ ← inScope (i.run false body))
          match result with
          | .ok _ =>
              let n := (← sharedScalar "?").int
              modify fun m => { m with status := n }
          | result => settle result
          finish i fuel

/-- Carries out a whole snippet. -/
def runSnippet (runners : Runners) (statements : List Statement) : Act Unit := do
  let i := Inner.ofDepth runners depthLimit
  let started ← attempted (prepare i statements)
  match started with
  | .error _ =>
      modify fun m => { m with endings := [] }
      settle started
  | .ok _ =>
      let result ← attempted (do let _ ← runAll i false statements)
      settle result
  finish i 1000
  let names := (← get).handles.map Prod.fst
  flush
  names.forM fun name => do
    let _ ← closeFile runners name
  finishChange
  flush

end KeyMenu.Sh.Snippet
