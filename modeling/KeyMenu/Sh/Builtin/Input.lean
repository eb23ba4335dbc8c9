import KeyMenu.Sh.Builtin.Basic
import KeyMenu.Sh.Field
import KeyMenu.Sh.Lookup

/-!
# Reading into variables

The commands that read a line, or all lines, into variables: `readLine` and `readLines`.
-/

namespace KeyMenu.Sh

/-- How much is read: up to a sign, or so many letters; and whether a backslash protects the sign
behind it. -/
structure Reach where
  limit : Option Char
  most : Option Nat
  isRaw : Bool
  isWide : Bool

/-- A byte begins no letter. -/
def isContinued (c : Char) : Bool := 0x80 ≤ c.toNat && c.toNat < 0xc0

/-- What is read of a text, how many bytes of it, and whether it has come to its end as asked. Signs
behind a backslash count as quoted. -/
def Reach.taken (r : Reach) : Nat → Nat → Text → Signs × Nat × Bool
  | 0, _, _ => ([], 0, false)
  | fuel + 1, count, t =>
      let continues := r.isWide && t.head?.any isContinued
      if r.most.any (· ≤ count) && !continues then ([], 0, true)
      else
        let next (s : Option Sign) (used : Nat) (rest : Text) : Signs × Nat × Bool :=
          let isCounted := s.isSome && !(r.isWide && s.any (isContinued ·.char))
          let (more, size, ends) := r.taken fuel (if isCounted then count + 1 else count) rest
          (s.toList ++ more, size + used, ends)
        match t with
        | [] => ([], 0, false)
        | '\\' :: rest =>
            if r.isRaw then if r.limit = some '\\' then ([], 1, true)
              else next (some ⟨'\\', false⟩) 1 rest
            else
              match rest with
              | '\n' :: rest => next none 2 rest
              | c :: rest => next (some ⟨c, true⟩) 2 rest
              | [] => ([], 1, false)
        | c :: rest =>
            if r.limit = some c then ([], 1, true)
            else if c = '\x00' then next none 1 rest
            else next (some ⟨c, false⟩) 1 rest

/-- A sign that separates and is white space. -/
def isTrimmed (separators : Text) (s : Sign) : Bool :=
  !s.isQuoted && separators.contains s.char && isBlankSign s.char

/-- A sign that separates. -/
def isSeparator (separators : Text) (s : Sign) : Bool := !s.isQuoted && separators.contains s.char

/-- What follows a word: white space, one separator, and white space again. -/
def pastSeparator (separators : Text) (signs : Signs) : Signs :=
  let rest := signs.dropWhile (isTrimmed separators)
  match rest with
  | s :: more => if isSeparator separators s then more.dropWhile (isTrimmed separators) else rest
  | [] => []

/-- The values that a line gives to so many variables; the last one takes the rest. -/
def lineValues (separators : Text) : Nat → Signs → List Text
  | 0, _ => []
  | 1, signs =>
      let signs := signs.dropWhile (isTrimmed separators)
      let word := signs.takeWhile (!isSeparator separators ·)
      if (pastSeparator separators (signs.drop word.length)).isEmpty then [Signs.text word]
      else [Signs.text (signs.reverse.dropWhile (isTrimmed separators)).reverse]
  | n + 2, signs =>
      let signs := signs.dropWhile (isTrimmed separators)
      let word := signs.takeWhile (!isSeparator separators ·)
      Signs.text word ::
        lineValues separators (n + 1) (pastSeparator separators (signs.drop word.length))

/-- A line as items that separators cut. -/
def lineItems (separators : Text) (signs : Signs) : List Item := signs.flatMap fun s =>
  if s.isQuoted then [.sign s] else Item.loose separators [s.char]

namespace State

/-- Gives several variables values. -/
def assignEach (s : State) (pairs : List (Text × Text)) : State :=
  pairs.foldl (fun s (name, value) => if s.isStopped then s else s.assignNamed name value) s

/-- Waits until a stream has something; a queue that this process may write to as well never
ends. -/
def awaitInput (s : State) (stream : Nat) (limit : Option Nat) : State × Bool :=
  match (s.opening? stream).map s.world.opening with
  | some ⟨.queue q, _, true, true, _⟩ =>
      if !(s.world.queue q).all.isEmpty then (s, true)
      else
        match limit with
        | some time => (s.pass time, false)
        | none => (s.awaitQueue q, true)
  | _ => (s, true)

end State

/-- Reads a line of the input into variables, or all its fields into one. -/
def readLine : Tool := fun words s =>
  let valued := if s.dialect = .dash then ['p'] else "aidnNptu".toList
  let (options, names) := optionsFirst valued words
  let has (c : Char) : Bool := options.any (·.1 == c)
  let list := optionValue? options 'a'
  let stream := ((optionValue? options 'u').bind (numberIn? 10)).elim 0 Int.toNat
  let limit := (optionValue? options 't').bind secondsText?
  let exact := (optionValue? options 'N').bind (numberIn? 10)
  let most := (exact.or ((optionValue? options 'n').bind (numberIn? 10))).map Int.toNat
  let isNamed (name : Text) : Bool :=
    isName name || (s.dialect = .bash && (subscript? name).isSome)
  if names.isEmpty && s.dialect = .dash then s.fail 2 "read".toList "arg count".toList
  else if (names ++ list.toList).any (!isNamed ·) then
    (s.blame "read".toList "not a valid identifier".toList).refuse
  else if (has 'n' || has 'N') && most.isNone || (has 't' && limit.isNone) then
    s.fail 1 "read".toList "invalid number".toList
  else if (s.opening? stream).isNone then s.withStatus (if s.dialect = .dash then 2 else 1)
  else if limit = some 0 then s.withStatus (if (s.ahead stream).isEmpty then 1 else 0)
  else
    let (s, isReady) := s.awaitInput stream limit
    if s.isStopped then s
    else if !isReady then (s.assignEach (names.map (·, []))).withStatus 142
    else
      let delimiter := match optionValue? options 'd' with
        | some t => some (t.head?.getD '\x00')
        | none => some '\n'
      let t := s.ahead stream
      let reach : Reach :=
        ⟨if exact.isSome then none else delimiter, most, has 'r', s.shellIsWide⟩
      let (signs, used, ends) := reach.taken (t.length + 1) 0 t
      let after := (s.advance stream used).withStatus (if ends then 0 else 1)
      let separators := if exact.isSome then [] else s.separators
      match list with
      | some name =>
          let values := (fields (lineItems separators signs)).map Signs.text
          (after.assignList name (State.numbered values)).withStatus
            (if after.isFixed name then 1 else after.status)
      | none =>
          let pairs := if names.isEmpty then [("REPLY".toList, Signs.text signs)]
            else if exact.isSome then
              names.zip (Signs.text signs :: List.replicate names.length [])
            else names.zip (lineValues separators names.length signs)
          let done := after.assignEach pairs
          if done.isStopped then done
          else if pairs.any fun (name, _) => s.isFixed name then done.refuse
          else done.withStatus after.status

/-- The lines of a text with what ends them. -/
def linesEndedBy (limit : Char) (t : Text) : List Text := t.splitBy fun a _ => a != limit

/-- Reads all lines of the input into a variable. -/
def readLines : Tool := fun words s =>
  let (options, names) := optionsFirst "dnOsuCc".toList words
  let name := (names.head?).getD "MAPFILE".toList
  let number (c : Char) : Option Nat :=
    ((optionValue? options c).bind (numberIn? 10)).map Int.toNat
  let delimiter := ((optionValue? options 'd').map fun t => t.head?.getD '\x00').getD '\n'
  let stream := (number 'u').getD 0
  let isBad := "nOsu".toList.any fun c => (optionValue? options c).isSome && (number c).isNone
  if !isName name || isBad then s.fail 1 "mapfile".toList "invalid array".toList
  else if (s.opening? stream).isNone then s.withStatus 1
  else
    let t := s.ahead stream
    let lines := linesEndedBy delimiter t
    let wanted := match number 'n' with
      | none => lines
      | some 0 => lines
      | some n => lines.take ((number 's').getD 0 + n)
    let strips := options.any (·.1 == 't') || delimiter = '\x00'
    let values := (wanted.drop ((number 's').getD 0)).map fun line =>
      if strips && line.getLast? = some delimiter then line.dropLast else line
    let s := s.advance stream (wanted.flatten.length)
    let before := if (number 'O').isSome then (s.values? name).getD [] else []
    let start := (number 'O').getD 0
    let added := (values.zipIdx).foldl (fun l (value, n) =>
      putNumbered (Text.ofNat (start + n)) value l) before
    if s.isFixed name then s.withStatus 1 else (s.putValues name false added).withStatus 0

end KeyMenu.Sh
