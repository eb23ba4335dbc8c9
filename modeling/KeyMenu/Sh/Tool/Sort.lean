import KeyMenu.Sh.Condition
import KeyMenu.Sh.Tool.Line

/-!
# Programs for sorted lines

Lines in an order, which keys decide (`sort`), and programs that take their lines for sorted: they
join the lines of two files, tell which lines are in both, or show lines that are repeated only
once.
-/

namespace KeyMenu.Sh

/-! ### Keys -/

/-- A number as signs spell it: whether it is below zero, its digits without zeros in front, and the
digits of its fraction without zeros behind. -/
structure Spelled where
  isNegative : Bool
  whole : Text
  fraction : Text
  deriving DecidableEq

namespace Spelled

/-- The number at the beginning of a text, behind blanks. -/
def ofText (t : Text) : Spelled :=
  let t := t.dropWhile fun c => c == ' ' || c == '\t' || c == '\n'
  let isNegative := t.head? = some '-'
  let t := if isNegative then t.tail else t
  let whole := t.takeWhile Char.isDigit
  let fraction := match t.drop whole.length with
    | '.' :: rest => rest.takeWhile Char.isDigit
    | _ => []
  let whole := whole.dropWhile (· == '0')
  let fraction := (fraction.reverse.dropWhile (· == '0')).reverse
  ⟨isNegative && !(whole.isEmpty && fraction.isEmpty), whole, fraction⟩

/-- One number without its sign is less than another one. -/
def magnitudeLt (a b : Spelled) : Bool :=
  if a.whole.length ≠ b.whole.length then a.whole.length < b.whole.length
  else if a.whole ≠ b.whole then comesBefore a.whole b.whole
  else comesBefore a.fraction b.fraction

/-- One number is less than another one. -/
def lt (a b : Spelled) : Bool :=
  match a.isNegative, b.isNegative with
  | true, false => true
  | false, true => false
  | false, false => a.magnitudeLt b
  | true, true => b.magnitudeLt a

end Spelled

/-- A number with an exponent, as a mantissa and a power of ten. -/
def scientific? (t : Text) : Option (Int × Int) :=
  let t := t.dropWhile fun c => c == ' ' || c == '\t'
  let sign : Int := if t.head? = some '-' then -1 else 1
  let t := if t.head? = some '-' || t.head? = some '+' then t.tail else t
  let whole := t.takeWhile Char.isDigit
  let rest := t.drop whole.length
  let (fraction, rest) := match rest with
    | '.' :: rest => (rest.takeWhile Char.isDigit, rest.dropWhile Char.isDigit)
    | rest => ([], rest)
  if whole.isEmpty && fraction.isEmpty then none
  else
    let exponent : Int := match rest with
      | e :: rest =>
          if e = 'e' || e = 'E' then
            match rest with
            | '-' :: digits => -((digitsValue (digits.takeWhile Char.isDigit) : Nat) : Int)
            | '+' :: digits => (digitsValue (digits.takeWhile Char.isDigit) : Nat)
            | digits => (digitsValue (digits.takeWhile Char.isDigit) : Nat)
          else 0
      | [] => 0
    some (sign * (digitsValue (whole ++ fraction) : Nat), exponent - fraction.length)

/-- One number with an exponent is less than another one. -/
def scientificLt (a b : Int × Int) : Bool :=
  let low := max (-400) (min a.2 b.2)
  let scaled (x : Int × Int) : Int := x.1 * (tenTo (min 800 (x.2 - low).toNat) : Nat)
  scaled a < scaled b

/-- The month that a text names, from one on. -/
def monthOf (t : Text) : Nat :=
  let t := ((t.dropWhile fun c => c == ' ' || c == '\t').take 3).map capital
  let names := ["JAN", "FEB", "MAR", "APR", "MAY", "JUN", "JUL", "AUG", "SEP", "OCT", "NOV", "DEC"]
  match names.findIdx? (·.toList == t) with
  | some n => n + 1
  | none => 0

/-- The number of the letter that counts in thousands. -/
def unitOf (t : Text) : Nat :=
  let t := t.dropWhile fun c => c == ' ' || c == '\t'
  let t := if t.head? = some '-' then t.tail else t
  let rest := t.dropWhile fun c => c.isDigit || c == '.'
  match rest.head? with
  | some 'k' => 1
  | some c => (("KMGTPEZYRQ".toList.findIdx? (· == c)).map (· + 1)).getD 0
  | none => 0

/-- What decides about an order: the letters of options, and from where to where a line counts. -/
structure SortKey where
  letters : Text
  startField : Nat
  startSign : Nat
  stopField : Option Nat
  stopSign : Nat
  startSkips : Bool
  stopSkips : Bool

namespace SortKey

/-- A blank. -/
def isBlank (c : Char) : Bool := c == ' ' || c == '\t' || c == '\n'

/-- A text without the fields at its beginning. -/
def pastFields (tab : Option Char) (ends : Bool) : Nat → Text → Text
  | 0, t => t
  | _ + 1, [] => []
  | n + 1, t =>
      match tab with
      | some c =>
          let rest := t.dropWhile (· != c)
          pastFields tab ends n (if rest.isEmpty || (ends && n = 0) then rest else rest.tail)
      | none => pastFields tab ends n ((t.dropWhile isBlank).dropWhile (!isBlank ·))

/-- The part of a line that counts. -/
def part (k : SortKey) (tab : Option Char) (line : Text) : Text :=
  let start := pastFields tab false k.startField line
  let start := (if k.startSkips then start.dropWhile isBlank else start).drop k.startSign
  match k.stopField with
  | none => start
  | some field =>
      let stop := if k.stopSign = 0 then pastFields tab true (field + 1) line
        else
          let t := pastFields tab false field line
          (if k.stopSkips then t.dropWhile isBlank else t).drop k.stopSign
      start.take (start.length - stop.length)

/-- One part comes before another one. -/
def before (k : SortKey) (a b : Text) : Bool :=
  let has (c : Char) : Bool := k.letters.contains c
  let less (a b : Text) : Bool :=
    if has 'n' then (Spelled.ofText a).lt (.ofText b)
    else if has 'h' then
      let x := Spelled.ofText a
      let y := Spelled.ofText b
      if x.isNegative ≠ y.isNegative then x.isNegative
      else if unitOf a ≠ unitOf b then (unitOf a < unitOf b) != x.isNegative
      else x.lt y
    else if has 'g' then
      match scientific? a, scientific? b with
      | none, some _ => true
      | some x, some y => scientificLt x y
      | _, none => false
    else if has 'M' then monthOf a < monthOf b
    else if has 'V' then !Listed.versionLe (a.length + b.length + 1) b a
    else
      let kept (t : Text) : Text :=
        let t := if has 'd' then t.filter fun c => c.isAlphanum || isBlank c else t
        let t := if has 'i' then t.filter fun c => 0x20 ≤ c.toNat && c.toNat < 0x7f else t
        if has 'f' then t.map capital else t
      comesBefore (kept a) (kept b)
  if has 'r' then less b a else less a b

/-- A place in a key: a field, a sign in it, and letters. -/
def place? (t : Text) : Option (Nat × Option Nat × Text) :=
  match digitsOf 10 20 t with
  | none => none
  | some (field, '.' :: rest) =>
      (digitsOf 10 20 rest).map fun (sign, letters) => (field, some sign, letters)
  | some (field, letters) => some (field, none, letters)

/-- Reads a key. -/
def ofText? (t : Text) : Option SortKey := do
  let (start, stop) := match Text.splitFirst [','] t with
    | some (start, stop) => (start, some stop)
    | none => (t, none)
  let (field, sign, letters) ← place? start
  if field = 0 || sign = some 0 || letters.any (!"bdfghiMnRrV".toList.contains ·) then none
  else
    match stop with
    | none =>
        return ⟨letters, field - 1, sign.getD 1 - 1, none, 0, letters.contains 'b', false⟩
    | some stop =>
        let (last, end', more) ← place? stop
        if last = 0 || more.any (!"bdfghiMnRrV".toList.contains ·) then none
        else return ⟨letters ++ more, field - 1, sign.getD 1 - 1, some (last - 1), end'.getD 0,
          letters.contains 'b', more.contains 'b'⟩

end SortKey

/-! ### Sorting -/

/-- Sorts lines. -/
def sort : Tool := optioned "sort" "bcCdfghik:mMno:rRsS:t:T:uVz" ["ignore-leading-blanks=b",
    "check?",
    "debug", "dictionary-order=d", "ignore-case=f", "general-numeric-sort=g",
    "human-numeric-sort=h", "ignore-nonprinting=i", "key=k", "merge=m", "month-sort=M",
    "numeric-sort=n", "output=o", "reverse=r", "random-sort=R", "stable=s", "buffer-size=S",
    "field-separator=t", "temporary-directory=T", "unique=u", "version-sort=V", "zero-terminated=z",
    "parallel:", "batch-size:", "compress-program:", "sort:", "random-source:"] 2 fun g s =>
  let global := "bdfghiMnRrV".toList.filter g.has ++
    (match (g.longValue? "sort").map String.ofList with
      | some "numeric" => ['n']
      | some "general-numeric" => ['g']
      | some "human-numeric" => ['h']
      | some "month" => ['M']
      | some "version" => ['V']
      | _ => [])
  let tab? : Except Text (Option Char) := match g.value? 't' with
    | none => .ok none
    | some [c] => .ok (some c)
    | some ['\\', '0'] => .ok (some '\x00')
    | some [] => .error "empty tab".toList
    | some t => .error ("multi-character tab ".toList ++ inQuotes t)
  match tab?, (g.values 'k').mapM SortKey.ofText? with
  | .error message, _ => s.complain 2 "sort".toList message
  | _, none => s.complain 2 "sort".toList "invalid field specification".toList
  | .ok tab, some keys =>
      let inherit (k : SortKey) : SortKey :=
        if (k.letters.filter (· != 'b')).isEmpty && !k.letters.contains 'b' then
          { k with
            letters := global
            startSkips := global.contains 'b'
            stopSkips := global.contains 'b' }
        else k
      let isKeyed := !keys.isEmpty || !(global.filter (· != 'r')).isEmpty
      let keys := if keys.isEmpty then
          [⟨global, 0, 0, none, 0, global.contains 'b', false⟩]
        else keys.map inherit
      let (s, texts) := s.gather "sort" 2 g.operands
      if s.status ≠ 0 then s
      else
        let limit := if g.has 'z' then '\x00' else '\n'
        let decorate (line : Text) : List Text × Text := (keys.map (·.part tab line), line)
        let parts := texts.map fun (_, t) => (piecesEndedBy limit t).map decorate
        let decorated := parts.flatten
        let byKeys (a b : List Text × Text) : Option Bool :=
          ((keys.zip (a.1.zip b.1)).findSome? fun (k, x, y) =>
            if k.before x y then some true else if k.before y x then some false else none)
        let usesAll := !g.has 's' && !g.has 'u' && isKeyed
        let isLe (a b : List Text × Text) : Bool :=
          match byKeys a b with
          | some less => less
          | none =>
              if !usesAll then true
              else if global.contains 'r' then Text.le b.2 a.2 else Text.le a.2 b.2
        let checks := g.has 'c' || g.has 'C' || g.hasLong "check"
        if checks then
          let isBad := (decorated.zip decorated.tail).find? fun (a, b) =>
            !isLe a b || (g.has 'u' && (byKeys a b).isNone)
          match isBad with
          | none => s
          | some (_, _, line) =>
              let quiet := g.has 'C' || g.longValue? "check" = some "quiet".toList
              if quiet then s.withStatus 1
              else s.complain 1 "sort".toList ("disorder: ".toList ++ line)
        else
          let sorted := if g.has 'm' then parts.foldl (fun all part => all.merge part isLe) []
            else decorated.mergeSort isLe
          let kept := if g.has 'u' then
              (sorted.splitBy fun a b => (byKeys a b).isNone).filterMap List.head?
            else sorted
          let out := kept.flatMap fun (_, line) => line ++ [limit]
          match g.value? 'o' with
          | some path =>
              match s.writeAt path out .write with
              | .ok s => s
              | .error fault => s.failOver 2 "sort".toList "open failed: ".toList path fault
          | none => s.put out

/-! ### Repeated lines -/

/-- Shows lines that are repeated in other ways. -/
def unique : Tool := fun words =>
  let words := words.flatMap fun w => match w with
    | '-' :: c :: rest => if (c :: rest).all Char.isDigit then [['-', 'f'], c :: rest] else [w]
    | _ => [w]
  optioned "uniq" "cdDf:is:uw:z" ["count=c", "repeated=d", "all-repeated?", "group?",
    "skip-fields=f",
    "ignore-case=i", "skip-chars=s", "unique=u", "check-chars=w", "zero-terminated=z"] 1 (fun g s =>
    let number (c : Char) : Option Nat := (g.value? c).map digitsValue
    let isBad := "fsw".toList.any fun c => (g.value? c).any fun t => t.isEmpty ||
        !t.all Char.isDigit
    if isBad then s.complain 1 "uniq".toList "invalid number".toList
    else if 2 < g.operands.length then s.complain 1 "uniq".toList "extra operand".toList
    else
      let limit := if g.has 'z' then '\x00' else '\n'
      let key (line : Text) : Text :=
        let t := SortKey.pastFields none false ((number 'f').getD 0) line
        let t := t.drop ((number 's').getD 0)
        let t := (number 'w').elim t t.take
        if g.has 'i' then t.map small else t
      let (s, t) := s.gatherAll "uniq" 1 (g.operands.take 1)
      if s.status ≠ 0 then s
      else
        let groups := (piecesEndedBy limit t).splitBy fun a b => key a == key b
        let showsAll := g.has 'D' || g.hasLong "all-repeated"
        let manner := String.ofList ((g.longValue? "all-repeated").getD [])
        let grouping := (g.longValue? "group").map fun t =>
          if t.isEmpty then "separate" else String.ofList t
        let shown (group : List Text) : List Text :=
          let n := group.length
          if showsAll then if 1 < n then group else []
          else if g.has 'd' && g.has 'u' then []
          else if (g.has 'd' && n < 2) || (g.has 'u' && 1 < n) then []
          else
            let line := group.headD []
            [if g.has 'c' then rightIn 7 (Text.ofNat n) ++ ' ' :: line else line]
        let ended (lines : List Text) : Text := lines.flatMap (· ++ [limit])
        let out := match grouping with
          | some manner =>
              let t := Text.joinWith [limit] (groups.map ended)
              (if manner = "prepend" || manner = "both" then [limit] else []) ++ t ++
                (if manner = "append" || manner = "both" then [limit] else [])
          | none =>
              let parts := (groups.map shown).filter (!·.isEmpty)
              if showsAll && manner = "separate" then Text.joinWith [limit] (parts.map ended)
              else if showsAll && manner = "prepend" then parts.flatMap fun p => limit :: ended p
              else parts.flatMap ended
        match g.operands[1]? with
        | some path => if path = ['-'] then s.put out else s.save "uniq" path out
        | none => s.put out) words

/-! ### Two files -/

/-- The lines of two sorted files beside each other: those only in the first, only in the second, or
in both. -/
def merged (le : Text → Text → Bool) : Nat →
    List Text → List Text → List (Option Text × Option Text)
  | 0, _, _ => []
  | _ + 1, [], right => right.map fun b => (none, some b)
  | _ + 1, left, [] => left.map fun a => (some a, none)
  | fuel + 1, a :: left, b :: right =>
      if a = b then (some a, some b) :: merged le fuel left right
      else if le a b then (some a, none) :: merged le fuel left (b :: right)
      else (none, some b) :: merged le fuel (a :: left) right

/-- Lines come in their order. -/
def isSorted (lines : List Text) : Bool := (lines.zip lines.tail).all fun (a, b) => Text.le a b

/-- Tells which lines two sorted files have in common. -/
def shareLines : Tool := optioned "comm" "123z" ["check-order", "nocheck-order",
    "output-delimiter:",
    "total", "zero-terminated=z"] 1 fun g s =>
  match g.operands with
  | [_, _] =>
      let (s, texts) := s.gather "comm" 1 g.operands
      match texts with
      | [(_, a), (_, b)] =>
          let limit := if g.has 'z' then '\x00' else '\n'
          let delimiter := (g.longValue? "output-delimiter").getD ['\t']
          let left := piecesEndedBy limit a
          let right := piecesEndedBy limit b
          let rows := merged Text.le (left.length + right.length + 1) left right
          let gap (letters : String) : Text :=
            (letters.toList.filter (!g.has ·)).flatMap fun _ => delimiter
          let line : Option Text × Option Text → Text
            | (some a, none) => if g.has '1' then [] else a ++ [limit]
            | (none, some b) => if g.has '2' then [] else gap "1" ++ b ++ [limit]
            | (some a, some _) => if g.has '3' then [] else gap "12" ++ a ++ [limit]
            | (none, none) => []
          let number (p : Option Text × Option Text → Bool) : Text := Text.ofNat (rows.countP p)
          let total := if g.hasLong "total" then
              number (fun r => r.1.isSome && r.2.isNone) ++ delimiter ++
                number (fun r => r.1.isNone && r.2.isSome) ++ delimiter ++
                number (fun r => r.1.isSome && r.2.isSome) ++ delimiter ++ "total".toList ++ [limit]
            else []
          let s := s.put (rows.flatMap line ++ total)
          let isMixed := rows.any fun r => r.1.isNone || r.2.isNone
          let isBad := !isSorted left || !isSorted right
          if isBad && !g.hasLong "nocheck-order" && (isMixed || g.hasLong "check-order") then
            s.complain 1 "comm".toList "input is not in sorted order".toList
          else s
      | _ => s
  | [] => s.missOperand "comm" 1
  | [t] => s.complain 1 "comm".toList ("missing operand after ".toList ++ inQuotes t)
  | _ => s.complain 1 "comm".toList "extra operand".toList

/-- A line with its fields, and the one by which it is joined. -/
structure Row where
  key : Text
  fields : List Text

/-- How rows are written: the separator, what stands for an empty field, the fields that are asked
for, the fields by which lines are joined, and how many fields there are where that is fixed. -/
structure RowWriter where
  separator : Char
  empty : Text
  chosen : List (Nat × Nat)
  places : Nat × Nat
  widths : Option (Nat × Nat)

/-- The fields of a row besides the one by which it is joined. -/
def RowWriter.others (w : RowWriter) (place : Nat) (width : Option Nat) (r : Option Row)
    : List Text :=
  let fields := (r.map (·.fields)).getD []
  let count := width.getD fields.length
  ((List.range count).filter (· != place)).map fun n =>
    match fields[n]? with
    | some (c :: t) => c :: t
    | _ => w.empty

/-- A line made of one row or of two. -/
def RowWriter.line (w : RowWriter) (a b : Option Row) : Text :=
  let key := ((a.or b).map (·.key)).getD []
  let shown (t : Text) : Text := if t.isEmpty then w.empty else t
  let parts := if w.chosen.isEmpty then
      shown key :: w.others w.places.1 (w.widths.map Prod.fst) a ++
        w.others w.places.2 (w.widths.map Prod.snd) b
    else w.chosen.map fun (file, n) =>
      if file = 0 then shown key
      else shown (((if file = 1 then a else b).bind (·.fields[n - 1]?)).getD [])
  Text.joinWith [w.separator] parts

/-- Joins sorted rows: all pairs of rows of one key, and the rows that have no partner. -/
def joinedRows (key : Text → Text) : Nat → List Row → List Row → List (Option Row × Option Row)
  | 0, _, _ => []
  | _ + 1, [], right => right.map fun b => (none, some b)
  | _ + 1, left, [] => left.map fun a => (some a, none)
  | fuel + 1, a :: left, b :: right =>
      let x := key a.key
      let y := key b.key
      if x = y then
        let these := (a :: left).takeWhile fun r => key r.key == x
        let those := (b :: right).takeWhile fun r => key r.key == x
        (these.flatMap fun a => those.map fun b => (some a, some b)) ++
          joinedRows key fuel ((a :: left).drop these.length) ((b :: right).drop those.length)
      else if Text.le x y then (some a, none) :: joinedRows key fuel left (b :: right)
      else (none, some b) :: joinedRows key fuel (a :: left) right

/-- Joins the lines of two files by a field. -/
def joinLines : Tool := optioned "join" "1:2:a:e:ij:o:t:v:z" ["check-order",
    "nocheck-order", "header",
    "ignore-case=i", "zero-terminated=z"] 1 fun g s =>
  let place (c : Char) : Option Nat := ((g.value? c).or (g.value? 'j')).elim (some 1) fun t =>
    if t.isEmpty || !t.all Char.isDigit || digitsValue t = 0 then none else some (digitsValue t)
  let formats := (g.values 'o').flatMap fun t => (splitAt ',' t).flatMap (splitAt ' ')
  let isAuto := formats = ["auto".toList]
  let chosen? : Option (List (Nat × Nat)) := if isAuto then some [] else
    (formats.filter (!·.isEmpty)).mapM fun t => match t with
      | ['0'] => some (0, 0)
      | c :: '.' :: n => if (c = '1' || c = '2') && !n.isEmpty && n.all Char.isDigit &&
            digitsValue n ≠ 0 then some (if c = '1' then 1 else 2, digitsValue n) else none
      | _ => none
  match place '1', place '2', chosen?, g.operands with
  | some p, some q, some chosen, [_, _] =>
      let (s, texts) := s.gather "join" 1 g.operands
      match texts with
      | [(_, a), (_, b)] =>
          let limit := if g.has 'z' then '\x00' else '\n'
          let separator := g.value? 't'
          let fieldsOf (line : Text) : List Text := match separator with
            | some [c] => splitAt c line
            | some [] => [line]
            | _ => (((line.map fun c => if c = '\t' then ' ' else c) |> splitAt ' ')).filter
                (!·.isEmpty)
          let rows (p : Nat) (t : Text) : List Row := (piecesEndedBy limit t).map fun line =>
            let fields := fieldsOf line
            ⟨(fields[p - 1]?).getD [], fields⟩
          let left := rows p a
          let right := rows q b
          let key (t : Text) : Text := if g.has 'i' then t.map small else t
          let widths := if isAuto then
              some ((left.head?.map (·.fields.length)).getD 0,
                (right.head?.map (·.fields.length)).getD 0)
            else none
          let writer : RowWriter := ⟨((separator.bind List.head?)).getD ' ', (g.value? 'e').getD [],
            chosen, (p - 1, q - 1), widths⟩
          let hasHeader := g.hasLong "header"
          let title := if hasHeader && (!left.isEmpty || !right.isEmpty) then
              writer.line left.head? right.head? ++ [limit] else []
          let left := if hasHeader then left.tail else left
          let right := if hasHeader then right.tail else right
          let pairs := joinedRows key (left.length + right.length + 1) left right
          let alone (c : Char) : Bool := (g.values 'a' ++ g.values 'v').contains [c]
          let out := pairs.filterMap fun pair => match pair with
            | (some _, some _) => if g.has 'v' then none else some (writer.line pair.1 pair.2)
            | (some _, none) => if alone '1' then some (writer.line pair.1 none) else none
            | (none, some _) => if alone '2' then some (writer.line none pair.2) else none
            | (none, none) => none
          let s := s.put (title ++ out.flatMap (· ++ [limit]))
          let isBad := !isSorted (left.map fun r => key r.key) ||
            !isSorted (right.map fun r => key r.key)
          let isMixed := pairs.any fun r => r.1.isNone || r.2.isNone
          if isBad && !g.hasLong "nocheck-order" && (isMixed || g.hasLong "check-order") then
            s.complain 1 "join".toList "input is not in sorted order".toList
          else s
      | _ => s
  | _, _, _, [_, _] => s.complain 1 "join".toList "invalid field number".toList
  | _, _, _, [] => s.missOperand "join" 1
  | _, _, _, _ => s.complain 1 "join".toList "missing operand".toList

/-! ### Other orders -/

/-- Names in an order in which each one comes after those that have to come before it; `isLoop`
tells that there is none. -/
def orderedNames : Nat → List Text → List (Text × Text) → List Text × Bool
  | 0, _, _ => ([], false)
  | fuel + 1, names, pairs =>
      match names.find? fun n => !pairs.any (·.2 == n) with
      | some n =>
          let (more, isLoop) := orderedNames fuel (names.filter (· != n)) (pairs.filter (·.1 != n))
          (n :: more, isLoop)
      | none =>
          match names with
          | [] => ([], false)
          | n :: rest =>
              let (more, _) := orderedNames fuel rest (pairs.filter fun (a, b) => a != n && b != n)
              (n :: more, true)

/-- Puts names in an order that pairs of them ask for. -/
def orderNames : Tool := optioned "tsort" "" [] 1 fun g s =>
  let (s, t) := s.gatherAll "tsort" 1 g.operands
  if s.status ≠ 0 then s
  else
    let isSpace (c : Char) : Bool := c == ' ' || c == '\t' || c == '\n'
    let words := ((t.map fun c => if isSpace c then ' ' else c) |> splitAt ' ').filter (!·.isEmpty)
    if words.length % 2 = 1 then
      s.complain 1 "tsort".toList "-: input contains an odd number of tokens".toList
    else
      let pairs := (List.range (words.length / 2)).map fun n =>
        ((words[2 * n]?).getD [], (words[2 * n + 1]?).getD [])
      let (names, isLoop) := orderedNames (words.length + 1) words.eraseDups
        (pairs.filter fun (a, b) => a ≠ b)
      let s := s.put (ofLines names)
      if isLoop then s.complain 1 "tsort".toList "-: input contains a loop:".toList else s

/-- Takes elements out of a list by chance. -/
def drawn {α : Type} : Nat → Nat → List α → List α
  | 0, _, _ => []
  | _ + 1, _, [] => []
  | fuel + 1, seed, a :: l =>
      let n := seed % (a :: l).length
      let rest := (a :: l).take n ++ (a :: l).drop (n + 1)
      (((a :: l)[n]?).toList) ++ drawn fuel (State.nextRandom seed) rest

/-- Shows lines in an order of chance. -/
def shuffle : Tool := optioned "shuf" "ei:n:o:rz" ["echo=e", "input-range=i", "head-count=n",
    "output=o", "random-source:", "repeat=r", "zero-terminated=z"] 1 fun g s =>
  let limit := if g.has 'z' then '\x00' else '\n'
  let most := (g.value? 'n').map digitsValue
  let range := (g.value? 'i').bind (Text.splitFirst ['-'])
  if (g.value? 'n').any (!·.all Char.isDigit) || (g.has 'i' && range.isNone) then
    s.complain 1 "shuf".toList "invalid line count".toList
  else
    let (s, lines) := match range with
      | some (a, b) =>
          let first := digitsValue a
          (s, (List.range (digitsValue b + 1 - first)).map fun n => Text.ofNat (first + n))
      | none =>
          if g.has 'e' then (s, g.operands)
          else
            let (s, t) := s.gatherAll "shuf" 1 g.operands
            (s, piecesEndedBy limit t)
    if s.status ≠ 0 then s
    else
      let seed := State.nextRandom (s.world.random + s.world.lastProcess)
      let all := if g.has 'r' then
          (drawn (most.getD 1000) seed (List.replicate (most.getD 1000) lines).flatten)
        else drawn lines.length seed lines
      let s := { s with world := { s.world with random := seed } }
      let out := ((most.elim all all.take).flatMap (· ++ [limit]))
      match g.value? 'o' with
      | some path => s.save "shuf" path out
      | none => s.put out

/-- Numbers are compared by what they mean. -/
example : (Spelled.ofText "-2".toList).lt (.ofText "1.5".toList) = true := by decide +kernel

end KeyMenu.Sh
