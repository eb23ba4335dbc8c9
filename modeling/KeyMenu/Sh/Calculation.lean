import KeyMenu.Sh.Word

/-!
# Calculations

The expressions that a shell calculates in 64 bits: numbers, variables, the operators of C, and
assignments. `Calculation.ofText?` reads an expression and `Calculation.value` gives its value,
where something remembers the variables (`Memory`).
-/

namespace KeyMenu.Sh

/-- A variable, or one of its values by what stands in brackets behind the name. -/
structure Cell where
  name : Text
  key : Option Text
  deriving DecidableEq

/-- An expression. -/
inductive Calculation
  | number (n : Int)
  | held (cell : Cell)
  | assign (cell : Cell) (operator : Option Text) (value : Calculation)
  | step (cell : Cell) (isBefore : Bool) (amount : Int)
  | unary (operator : Char) (operand : Calculation)
  | binary (operator : Text) (left right : Calculation)
  | choice (condition yes no : Calculation)
  deriving DecidableEq

/-- What is wrong with a calculation. -/
inductive CalculationFault
  | senseless
  | divisionByZero
  | unset
  | fixed
  deriving DecidableEq

/-- A part of the text of an expression. -/
inductive Lexeme
  | number (n : Int)
  | cell (cell : Cell)
  | operator (text : Text)
  deriving DecidableEq

/-! ### Numbers -/

/-- The value of a digit of any base up to 64; up to 36 capitals are no digits of their own. -/
def wideDigit (base : Nat) (c : Char) : Nat :=
  if base ≤ 36 then digitValue c
  else if c.isDigit || c.isLower then digitValue c
  else if c.isUpper then c.toNat - 'A'.toNat + 36
  else if c = '@' then 62
  else if c = '_' then 63
  else 64

/-- The number that a numeral of an expression spells: a zero in front makes it octal, a zero and an
`x` hexadecimal. -/
def numeral? : Text → Option Int
  | '0' :: 'x' :: digits => numberIn? 16 digits
  | '0' :: 'X' :: digits => numberIn? 16 digits
  | '0' :: c :: digits => numberIn? 8 (c :: digits)
  | digits => numberIn? 10 digits

/-- The number in 64 bits that a number comes to. -/
def wrapped (n : Int) : Int := Int.bmod n 18446744073709551616

/-! ### Reading -/

namespace Lexeme

/-- The operators, longer ones first. -/
def operators (dialect : Dialect) : List Text :=
  (["<<=", ">>=", "&&", "||", "<<", ">>", "<=", ">=", "==", "!=", "+=", "-=", "*=", "/=", "%=",
    "&=", "|=", "^="] ++ (if dialect = .bash then ["**", "++", "--", ","] else []) ++
    ["+", "-", "*", "/", "%", "&", "|", "^", "~", "!", "<", ">", "=", "?", ":", "(", ")"]).map
      String.toList

/-- The parts of an expression, with enough fuel for its length. -/
def ofText? (dialect : Dialect) : Nat → Text → Option (List Lexeme)
  | 0, _ => none
  | _ + 1, [] => some []
  | fuel + 1, c :: rest =>
      let t := c :: rest
      if c = ' ' || c = '\t' || c = '\n' then ofText? dialect fuel rest
      else if c.isDigit then do
        let digits := t.takeWhile Char.isAlphanum
        let rest := t.dropWhile Char.isAlphanum
        match if dialect = .bash then rest else [] with
        | '#' :: rest =>
            let base ← numberIn? 10 digits
            let isDigit (c : Char) : Bool := c.isAlphanum || c == '@' || c == '_'
            let digits := rest.takeWhile isDigit
            let value := wideDigit base.toNat
            if base < 2 ∨ 64 < base ∨ digits.isEmpty ∨ digits.any (base.toNat ≤ value ·) then none
            else
              let n := digits.foldl (fun n c => base.toNat * n + value c) 0
              let others ← ofText? dialect fuel (rest.dropWhile isDigit)
              return .number n :: others
        | _ =>
            let n ← numeral? digits
            let others ← ofText? dialect fuel rest
            return .number n :: others
      else if isNameStart c then do
        let name := t.takeWhile isNameChar
        match if dialect = .bash then t.dropWhile isNameChar else [] with
        | '[' :: rest =>
            let (key, rest) ← closedBy .bash false ']' rest
            let others ← ofText? dialect fuel rest
            return .cell ⟨name, some key⟩ :: others
        | _ =>
            let others ← ofText? dialect fuel (t.dropWhile isNameChar)
            return .cell ⟨name, none⟩ :: others
      else do
        let sign ← (operators dialect).find? (·.isPrefixOf t)
        let others ← ofText? dialect fuel (t.drop sign.length)
        return .operator sign :: others

/-- An operator. -/
def sign (text : String) : Lexeme := .operator text.toList

end Lexeme

namespace Calculation

/-- The operators between two operands, those that bind least first. -/
def levels : List (List Text) :=
  [["||"], ["&&"], ["|"], ["^"], ["&"], ["==", "!="], ["<", "<=", ">", ">="], ["<<", ">>"],
    ["+", "-"], ["*", "/", "%"], ["**"]].map (·.map String.toList)

/-- The operators that assign, with what they do before. -/
def assignments : List (Text × Option Text) :=
  ("=".toList, none) :: (["<<", ">>", "+", "-", "*", "/", "%", "&", "|", "^"].map String.toList).map
    fun operator => (operator ++ ['='], some operator)

mutual

/-- Expressions one after the other; the last one counts. -/
def readAll : Nat → List Lexeme → Option (Calculation × List Lexeme)
  | 0, _ => none
  | fuel + 1, ts => do
      let (first, rest) ← readOne fuel ts
      if rest.head? = some (.sign ",") then
        let (second, rest) ← readAll fuel rest.tail
        return (.binary [','] first second, rest)
      else return (first, rest)

/-- An assignment or a choice. -/
def readOne : Nat → List Lexeme → Option (Calculation × List Lexeme)
  | 0, _ => none
  | fuel + 1, ts =>
      let assigned : Option (Cell × Option Text × List Lexeme) :=
        match ts with
        | .cell cell :: .operator sign :: rest =>
            (assignments.find? (·.1 == sign)).map fun (_, operator) => (cell, operator, rest)
        | _ => none
      match assigned with
      | some (cell, operator, rest) => do
          let (value, rest) ← readOne fuel rest
          return (.assign cell operator value, rest)
      | none => readChoice fuel ts

/-- A choice, or an operand of one. -/
def readChoice : Nat → List Lexeme → Option (Calculation × List Lexeme)
  | 0, _ => none
  | fuel + 1, ts => do
      let (condition, rest) ← readLevel fuel levels ts
      if rest.head? = some (.sign "?") then
        let (yes, rest) ← readAll fuel rest.tail
        if rest.head? = some (.sign ":") then
          let (no, rest) ← readChoice fuel rest.tail
          return (.choice condition yes no, rest)
        else none
      else return (condition, rest)

/-- Operands joined by the operators of some levels. -/
def readLevel : Nat → List (List Text) → List Lexeme → Option (Calculation × List Lexeme)
  | 0, _, _ => none
  | fuel + 1, [], ts => readOperand fuel ts
  | fuel + 1, operators :: higher, ts => do
      let (first, rest) ← readLevel fuel higher ts
      moreOperands fuel operators higher first rest

/-- The operands that follow one. -/
def moreOperands : Nat → List Text → List (List Text) → Calculation → List Lexeme →
    Option (Calculation × List Lexeme)
  | 0, _, _, _, _ => none
  | fuel + 1, operators, higher, left, ts =>
      match ts with
      | .operator sign :: rest =>
          if operators.contains sign then do
            if sign = "**".toList then
              let (right, rest) ← readLevel fuel (operators :: higher) rest
              return (.binary sign left right, rest)
            else
              let (right, rest) ← readLevel fuel higher rest
              moreOperands fuel operators higher (.binary sign left right) rest
          else return (left, ts)
      | _ => return (left, ts)

/-- A number, a variable, brackets, or one of them with a sign. -/
def readOperand : Nat → List Lexeme → Option (Calculation × List Lexeme)
  | 0, _ => none
  | fuel + 1, ts =>
      match ts with
      | .number n :: rest => some (.number (wrapped n), rest)
      | .cell cell :: .operator ['+', '+'] :: rest => some (.step cell false 1, rest)
      | .cell cell :: .operator ['-', '-'] :: rest => some (.step cell false (-1), rest)
      | .cell cell :: rest => some (.held cell, rest)
      | .operator ['+', '+'] :: .cell cell :: rest => some (.step cell true 1, rest)
      | .operator ['-', '-'] :: .cell cell :: rest => some (.step cell true (-1), rest)
      | .operator ['('] :: rest => do
          let (inner, rest) ← readAll fuel rest
          if rest.head? = some (.sign ")") then return (inner, rest.tail) else none
      | .operator [sign] :: rest =>
          if "+-!~".toList.contains sign then do
            let (operand, rest) ← readOperand fuel rest
            return (.unary sign operand, rest)
          else none
      | _ => none

end

/-- Reads an expression; one of the shells takes nothing for zero. -/
def ofText? (dialect : Dialect) (t : Text) : Option Calculation := do
  let parts ← Lexeme.ofText? dialect (t.length + 1) t
  if parts.isEmpty then (if dialect = .dash then none else return .number 0)
  else
    let (tree, rest) ← readAll (16 * (parts.length + 1)) parts
    if rest.isEmpty then return tree else none

/-! ### Values -/

/-- The number that stands for a truth value. -/
def truth (b : Bool) : Int := if b then 1 else 0

/-- The bits of a number. -/
def bits (n : Int) : Nat := (n % 18446744073709551616).toNat

/-- The value of two operands. -/
def combine (operator : Text) (a b : Int) : Except CalculationFault Int :=
  match String.ofList operator with
  | "+" => .ok (wrapped (a + b))
  | "-" => .ok (wrapped (a - b))
  | "*" => .ok (wrapped (a * b))
  | "/" => if b = 0 then .error .divisionByZero else .ok (wrapped (Int.tdiv a b))
  | "%" => if b = 0 then .error .divisionByZero else .ok (wrapped (Int.tmod a b))
  | "**" => if b < 0 then .error .senseless else .ok (wrapped (Int.pow a (min b.toNat 64)))
  | "<<" => .ok (wrapped (a * (Nat.pow 2 (bits b % 64) : Nat)))
  | ">>" => .ok (Int.fdiv a (Nat.pow 2 (bits b % 64) : Nat))
  | "&" => .ok (wrapped (bits a &&& bits b : Nat))
  | "|" => .ok (wrapped (bits a ||| bits b : Nat))
  | "^" => .ok (wrapped (bits a ^^^ bits b : Nat))
  | "==" => .ok (truth (a == b))
  | "!=" => .ok (truth (a != b))
  | "<" => .ok (truth (a < b))
  | "<=" => .ok (truth (a ≤ b))
  | ">" => .ok (truth (b < a))
  | ">=" => .ok (truth (b ≤ a))
  | "," => .ok b
  | _ => .error .senseless

/-- The value of an operand with a sign. -/
def signed (sign : Char) (a : Int) : Int :=
  match sign with
  | '-' => wrapped (-a)
  | '~' => wrapped (-a - 1)
  | '!' => truth (a == 0)
  | _ => a

/-- Something that remembers variables: it tells the number that one holds, and takes a new one. -/
structure Memory (σ : Type) where
  ask : Cell → σ → Except CalculationFault (Int × σ)
  give : Cell → Int → σ → Except CalculationFault σ

/-- The value of an expression, and the memory after it. -/
def value {σ : Type} (m : Memory σ) : Calculation → σ → Except CalculationFault (Int × σ)
  | .number n, s => .ok (n, s)
  | .held cell, s => m.ask cell s
  | .assign cell operator value, s => do
      let (b, s) ← value.value m s
      let n ← match operator with
        | none => pure b
        | some operator => do
            let (a, _) ← m.ask cell s
            combine operator a b
      return (n, ← m.give cell n s)
  | .step cell isBefore amount, s => do
      let (a, s) ← m.ask cell s
      let b := wrapped (a + amount)
      return (if isBefore then b else a, ← m.give cell b s)
  | .unary sign operand, s => do
      let (a, s) ← operand.value m s
      return (signed sign a, s)
  | .binary operator left right, s => do
      let (a, s) ← left.value m s
      if operator = "&&".toList && a = 0 then return (0, s)
      else if operator = "||".toList && a ≠ 0 then return (1, s)
      else
        let (b, s) ← right.value m s
        if operator = "&&".toList || operator = "||".toList then return (truth (b != 0), s)
        else return (← combine operator a b, s)
  | .choice condition yes no, s => do
      let (c, s) ← condition.value m s
      if c ≠ 0 then yes.value m s else no.value m s

end Calculation

/-- A whole number in decimal digits, with or without a sign, and perhaps with blanks around it; one
of the shells takes line ends after it too. -/
def number? (dialect : Dialect) (t : Text) : Option Int :=
  let isBlank (c : Char) : Bool := c == ' ' || ('\t' ≤ c && c ≤ '\x0d')
  let isBlankAfter (c : Char) : Bool :=
    if dialect = .dash then isBlank c else c == ' ' || c == '\t'
  match (t.dropWhile isBlank).reverse.dropWhile isBlankAfter |>.reverse with
  | '-' :: rest => (numberIn? 10 rest).map (- ·)
  | '+' :: rest => numberIn? 10 rest
  | rest => numberIn? 10 rest

/-- The number that the value of a variable is, where it has to be one. -/
def plainNumber? (t : Text) : Option Int :=
  let t := (t.dropWhile (· == ' ')).reverse.dropWhile (· == ' ') |>.reverse
  match t with
  | [] => some 0
  | '-' :: rest => (numeral? rest).map (- ·)
  | '+' :: rest => numeral? rest
  | rest => numeral? rest

end KeyMenu.Sh
