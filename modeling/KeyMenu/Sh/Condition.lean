import KeyMenu.Sh.Lookup

/-!
# Conditions

The conditions of the command `test`: on texts, on numbers and on files. A condition that makes no
sense is an error of its own (`Verdict.senseless`). Up to four words are told apart by their number,
so that an operator may be an operand; more words are read as an expression with "and" and "or".
-/

namespace KeyMenu.Sh

/-- What comes of a condition. -/
inductive Verdict
  | holds
  | fails
  | senseless
  deriving DecidableEq

namespace Verdict

/-- A verdict that is a matter of fact. -/
def ofBool (b : Bool) : Verdict := if b then .holds else .fails

/-- The exit status of a condition. -/
def status : Verdict → Int
  | .holds => 0
  | .fails => 1
  | .senseless => 2

/-- The opposite. -/
def negate : Verdict → Verdict
  | .holds => .fails
  | .fails => .holds
  | .senseless => .senseless

/-- Both hold. -/
def both : Verdict → Verdict → Verdict
  | .senseless, _ => .senseless
  | _, .senseless => .senseless
  | .holds, v => v
  | .fails, _ => .fails

/-- One of them holds. -/
def either : Verdict → Verdict → Verdict
  | .senseless, _ => .senseless
  | _, .senseless => .senseless
  | .holds, _ => .holds
  | .fails, v => v

end Verdict

namespace State

/-- The file at a path, as far as a condition asks. -/
def fileAt? (s : State) (follows : Bool) (path : Text) : Option Inode :=
  match streamAt? path with
  | some n => (s.opening? n).map fun opening =>
      match (s.world.opening opening).target with
      | .file inode => s.world.store.inode inode
      | .queue q => ⟨.queue q, 0o600, 0, 0, 0, 0, 0⟩
      | _ => ⟨.device "null".toList, 0o666, 0, 0, 0, 0, 0⟩
  | none => (s.inodeAt follows path).toOption.map s.world.store.inode

/-- The variable has a value, or one under a text in brackets. -/
def hasValue (s : State) (name : Text) : Bool :=
  match Text.splitFirst ['['] name with
  | some (base, rest) =>
      match rest.dropLast with
      | ['@'] => (s.values? base).any (!·.isEmpty)
      | ['*'] => (s.values? base).any (!·.isEmpty)
      | key => (s.values? base).any fun values => (Table.get? values key).isSome
  | none => (s.parameter? name).isSome

/-- A condition of one operand. -/
def testOne (s : State) (sign operand : Text) : Verdict :=
  let isFile (p : Inode → Bool) : Verdict := .ofBool ((s.fileAt? true operand).any p)
  let hasMode (bits : Nat) : Verdict := isFile fun file => file.mode &&& bits != 0
  let isLink := (s.fileAt? false operand).any fun file => (file.content matches .link _)
  let ofBash (v : Verdict) : Verdict := if s.dialect = .bash then v else .senseless
  match String.ofList sign with
  | "-n" => .ofBool (!operand.isEmpty)
  | "-z" => .ofBool operand.isEmpty
  | "-e" => isFile fun _ => true
  | "-a" => ofBash (isFile fun _ => true)
  | "-r" => isFile fun _ => true
  | "-w" => isFile fun _ => true
  | "-O" => isFile fun file => file.owner == 0
  | "-G" => isFile fun file => file.group == 0
  | "-f" => isFile fun file => (file.content matches .plain _) || (file.content matches .program _)
  | "-d" => isFile fun file => (file.content matches .directory _)
  | "-L" => .ofBool isLink
  | "-h" => .ofBool isLink
  | "-p" => isFile fun file => (file.content matches .queue _)
  | "-c" => isFile fun file => (file.content matches .device _)
  | "-b" => .fails
  | "-S" => .fails
  | "-t" => if (number? s.dialect operand).isSome || s.dialect = .bash then .fails else .senseless
  | "-g" => hasMode 0o2000
  | "-u" => hasMode 0o4000
  | "-k" => hasMode 0o1000
  | "-x" => isFile fun file => (file.content matches .directory _) || file.mode &&& 0o111 != 0
  | "-N" => ofBash (isFile fun file => file.accessed < file.modified)
  | "-s" => isFile fun file =>
      match file.content with
      | .plain t => !t.isEmpty
      | .directory _ => true
      | .program _ => true
      | _ => false
  | "-v" => ofBash (.ofBool (s.hasValue operand))
  | "-R" => ofBash (.ofBool ((Table.get? s.vars operand).any (·.isReference)))
  | "-o" => ofBash (.ofBool (s.isOn (String.ofList operand)))
  | _ => .senseless

end State

/-- A condition on two numbers. -/
def testNumbers (dialect : Dialect) (holds : Int → Int → Bool) (a b : Text) : Verdict :=
  match number? dialect a, number? dialect b with
  | some m, some n =>
      if wrapped m = m && wrapped n = n then .ofBool (holds m n) else .senseless
  | _, _ => .senseless

/-- One text comes before another. -/
def comesBefore (a b : Text) : Bool := a ≠ b && Text.le a b

/-- One file has changed later than another; one of the shells takes a file that is not there for
older than any. -/
def isNewer (dialect : Dialect) : Option Inode → Option Inode → Bool
  | some a, some b => b.modified < a.modified
  | some _, none => dialect = .bash
  | none, _ => false

namespace State

/-- A condition of two operands. -/
def testTwo (s : State) (a sign b : Text) : Verdict :=
  match String.ofList sign with
  | "=" => .ofBool (a == b)
  | "==" => if s.dialect = .bash then .ofBool (a == b) else .senseless
  | "!=" => .ofBool (a != b)
  | "<" => .ofBool (comesBefore a b)
  | ">" => .ofBool (comesBefore b a)
  | "-eq" => testNumbers s.dialect (· == ·) a b
  | "-ne" => testNumbers s.dialect (· != ·) a b
  | "-lt" => testNumbers s.dialect (· < ·) a b
  | "-le" => testNumbers s.dialect (· ≤ ·) a b
  | "-gt" => testNumbers s.dialect (· > ·) a b
  | "-ge" => testNumbers s.dialect (· ≥ ·) a b
  | "-nt" => .ofBool (isNewer s.dialect (s.fileAt? true a) (s.fileAt? true b))
  | "-ot" => .ofBool (isNewer s.dialect (s.fileAt? true b) (s.fileAt? true a))
  | "-ef" => .ofBool ((s.inodeAt true a).isOk &&
      (s.inodeAt true a).toOption == (s.inodeAt true b).toOption)
  | _ => .senseless

/-- The sign joins two operands. -/
def isBetween (s : State) (sign : Text) : Bool :=
  (["=", "!=", "<", ">", "-eq", "-ne", "-lt", "-le", "-gt", "-ge", "-nt", "-ot", "-ef"].any
    (·.toList == sign)) || (s.dialect = .bash && sign == "==".toList)

mutual

/-- Conditions joined by "or". -/
def testEither (s : State) : Nat → List Text → Option (Verdict × List Text)
  | 0, _ => none
  | fuel + 1, words => do
      let (first, rest) ← s.testBoth fuel words
      if rest.head? = some "-o".toList then
        let (second, rest) ← s.testEither fuel rest.tail
        return (first.either second, rest)
      else return (first, rest)

/-- Conditions joined by "and". -/
def testBoth (s : State) : Nat → List Text → Option (Verdict × List Text)
  | 0, _ => none
  | fuel + 1, words => do
      let (first, rest) ← s.testSingle fuel words
      if rest.head? = some "-a".toList then
        let (second, rest) ← s.testBoth fuel rest.tail
        return (first.both second, rest)
      else return (first, rest)

/-- One condition, perhaps negated or in brackets. -/
def testSingle (s : State) : Nat → List Text → Option (Verdict × List Text)
  | 0, _ => none
  | fuel + 1, words =>
      match words with
      | a :: sign :: b :: rest =>
          if s.isBetween sign then some (s.testTwo a sign b, rest)
          else if a = ['!'] then do
            let (inner, rest) ← s.testSingle fuel words.tail
            return (inner.negate, rest)
          else if a = ['('] then do
            let (inner, rest) ← s.testEither fuel words.tail
            if rest.head? = some [')'] then return (inner, rest.tail) else none
          else if s.testOne a sign = .senseless then some (.ofBool (!a.isEmpty), words.tail)
          else some (s.testOne a sign, b :: rest)
      | [sign, a] =>
          some (if sign = ['!'] then .ofBool a.isEmpty else s.testOne sign a, [])
      | [a] => some (.ofBool (!a.isEmpty), [])
      | [] => none

end

/-- A condition of any number of words. -/
def testMany (s : State) (words : List Text) : Verdict :=
  match s.testEither (4 * (words.length + 1)) words with
  | some (verdict, []) => verdict
  | _ => .senseless

/-- A condition of two words. -/
def testPair (s : State) (sign a : Text) : Verdict :=
  if sign = ['!'] then .ofBool a.isEmpty else s.testOne sign a

/-- A condition of three words. -/
def testTriple (s : State) (a sign b : Text) : Verdict :=
  if s.isBetween sign then s.testTwo a sign b
  else if sign = "-a".toList then .ofBool (!a.isEmpty && !b.isEmpty)
  else if sign = "-o".toList then .ofBool (!a.isEmpty || !b.isEmpty)
  else if a = ['!'] then (s.testPair sign b).negate
  else if a = ['('] && b = [')'] then .ofBool (!sign.isEmpty)
  else .senseless

/-- A condition. -/
def test (s : State) : List Text → Verdict
  | [] => .fails
  | [a] => .ofBool (!a.isEmpty)
  | [sign, a] => s.testPair sign a
  | [a, sign, b] => s.testTriple a sign b
  | [a, b, c, d] =>
      if a = ['!'] then (s.testTriple b c d).negate
      else if a = ['('] && d = [')'] then s.testPair b c
      else s.testMany [a, b, c, d]
  | words => s.testMany words

end State

/-- The sign of a condition compares numbers. -/
def isNumeric (sign : Text) : Bool :=
  ["-eq", "-ne", "-lt", "-le", "-gt", "-ge"].any (·.toList == sign)

end KeyMenu.Sh
