import KeyMenu.Sh.Digits

/-!
# Permissions

The permissions of a file are three bits for its owner, its group and others, and three more. They
are written in octal digits, or by clauses that say who may do what (`Mode.changed?`).
-/

namespace KeyMenu.Sh

namespace Mode

/-- The bits for which letters of who stand; the last three belong to the owner, the group and
nobody. -/
def whoMask : Char → Nat
  | 'u' => 0o4700
  | 'g' => 0o2070
  | 'o' => 0o1007
  | _ => 0o7777

/-- The bits for which a letter stands. -/
def letterBits (isDirectory : Bool) (before : Nat) : Char → Nat
  | 'r' => 0o444
  | 'w' => 0o222
  | 'x' => 0o111
  | 'X' => if isDirectory || before &&& 0o111 ≠ 0 then 0o111 else 0
  | 's' => 0o6000
  | 't' => 0o1000
  | _ => 0

/-- The bits of one of the three that another one is to have. -/
def copiedBits (before : Nat) : Char → Option Nat
  | 'u' => some ((before / 64 &&& 7) * 0o111)
  | 'g' => some ((before / 8 &&& 7) * 0o111)
  | 'o' => some ((before &&& 7) * 0o111)
  | _ => none

/-- What stands in one number and not in another one. -/
def without (a b : Nat) : Nat := a &&& (0o7777 ^^^ (b &&& 0o7777))

/-- Follows the signs of a clause: each takes, adds or sets what its letters say. -/
def followed? (mask : Nat) (isDirectory : Bool) (whos : Text) : Nat → Text → Nat → Option Nat
  | 0, _, mode => some mode
  | _ + 1, [], mode => some mode
  | fuel + 1, sign :: rest, mode =>
      if !"+-=".toList.contains sign then none
      else
        let letters := rest.takeWhile fun c => !"+-=".toList.contains c
        let after := rest.drop letters.length
        let bits : Option Nat := match letters with
          | [c] => (copiedBits mode c).or
              (if "rwxXst".toList.contains c then some (letterBits isDirectory mode c) else none)
          | letters => if letters.all "rwxXst".toList.contains then
              some (letters.foldl (fun n c => n ||| letterBits isDirectory mode c) 0)
            else none
        match bits with
        | none => none
        | some bits =>
            let field := if whos.isEmpty then 0o7777 else whos.foldl (fun n c => n ||| whoMask c) 0
            let meant := if whos.isEmpty then without (bits &&& field) mask else bits &&& field
            let mode := match sign with
              | '+' => mode ||| meant
              | '-' => without mode meant
              | _ => without mode (if isDirectory then field &&& 0o1777 else field) ||| meant
            followed? mask isDirectory whos fuel after mode

/-- The permissions that a text makes of others, where a mask applies to what is said of nobody in
particular. -/
def changed? (mask : Nat) (isDirectory : Bool) (text : Text) (before : Nat) : Option Nat :=
  match text with
  | [] => none
  | c :: _ =>
      if c.isDigit then
        (numberIn? 8 text).bind fun n => if n ≤ 0o7777 then
            some (if isDirectory && text.length < 5 then n.toNat |||
              (before &&& 0o6000) else n.toNat)
          else none
      else
        ((text.splitBy fun a b => a != ',' && b != ',').filter (· ≠ [','])).foldlM
          (fun mode clause =>
            let whos := clause.takeWhile "ugoa".toList.contains
            let signs := clause.drop whos.length
            if signs.isEmpty then none
            else followed? mask isDirectory whos (signs.length + 1) signs mode) before

/-- The letters of three bits. -/
def threeLetters (n : Nat) : Text :=
  (if n &&& 4 ≠ 0 then ['r'] else []) ++ (if n &&& 2 ≠ 0 then ['w'] else []) ++
    (if n &&& 1 ≠ 0 then ['x'] else [])

/-- What a mask leaves, in letters. -/
def left (mask : Nat) : Text :=
  let n := without 0o777 mask
  "u=".toList ++ threeLetters (n / 64 &&& 7) ++ ",g=".toList ++ threeLetters (n / 8 &&& 7) ++
    ",o=".toList ++ threeLetters (n &&& 7)

/-- Permissions in ten signs, behind that of the kind of file. -/
def written (kind : Char) (mode : Nat) : Text :=
  let three (n : Nat) (special : Bool) (on off : Char) : Text :=
    [if n &&& 4 ≠ 0 then 'r' else '-', if n &&& 2 ≠ 0 then 'w' else '-',
      if special then (if n &&& 1 ≠ 0 then on else off)
      else if n &&& 1 ≠ 0 then 'x' else '-']
  kind :: three (mode / 64 &&& 7) (mode &&& 0o4000 ≠ 0) 's' 'S' ++
    three (mode / 8 &&& 7) (mode &&& 0o2000 ≠ 0) 's' 'S' ++
    three (mode &&& 7) (mode &&& 0o1000 ≠ 0) 't' 'T'

/-- In octal digits. -/
def digits (mode : Nat) : Text := inBase 8 mode

end Mode

/-- A clause about nobody in particular leaves what the mask forbids. -/
example : Mode.changed? 0o022 false "+w,o-r".toList 0o444 = some 0o640 := by decide +kernel

example : Mode.written '-' 0o4755 = "-rwsr-xr-x".toList := by decide +kernel

end KeyMenu.Sh
