import KeyMenu.Sh.Digits
import KeyMenu.Sh.Regular
import KeyMenu.Table

/-!
# Reading regular expressions

Expressions are written in one of three ways (`Style`): in the basic one brackets, braces and bars
mean something behind a backslash, in the extended one without it, and the rich one has classes,
places and groups of its own besides. `Regular.ofText?` reads an expression; one that makes no sense
is none.
-/

namespace KeyMenu.Sh

/-- How an expression is written. -/
inductive Style
  | basic
  | extended
  | rich
  deriving DecidableEq

/-- How an expression is read: its style, whether capitals count as small letters, whether lines
begin and end inside of the text, whether a dot stands for the end of a line too, whether blanks
count for nothing, whether a backslash introduces signs that are hard to write, and whether braces
ask for repetitions. A bracket that closes nothing may stand for itself, and a repetition of
nothing, or braces that make no sense, may be let pass. -/
structure Manner where
  style : Style
  folds : Bool
  isLined : Bool
  dotIsAll : Bool
  isSpaced : Bool
  escapes : Bool
  braces : Bool
  closesAlone : Bool
  isLenient : Bool

/-- The usual manner of a style. -/
def Manner.ofStyle (style : Style) : Manner :=
  ⟨style, false, false, style ≠ .rich, false, style = .rich, true, false, false⟩

/-- The signs that open a group, with those that close it. -/
def Manner.brackets (m : Manner) : Text × Text × Text :=
  if m.style = .basic then ("\\(".toList, "\\)".toList, "\\|".toList) else (['('], [')'], ['|'])

namespace Regular

/-- The digits, and the letters of words and of white space. -/
def digitRanges : List (Char × Char) := [('0', '9')]

/-- The letters of words. -/
def wordRanges : List (Char × Char) := [('a', 'z'), ('A', 'Z'), ('0', '9'), ('_', '_')]

/-- White space. -/
def spaceRanges : List (Char × Char) := [(' ', ' '), ('\t', '\x0d')]

/-- White space within a line. -/
def blankRanges : List (Char × Char) := [(' ', ' '), ('\t', '\t')]

/-- The ranges of a set that a letter behind a backslash stands for, and whether it is turned
around. -/
def class? (c : Char) : Option (Bool × List (Char × Char)) :=
  match c with
  | 'd' => some (false, digitRanges)
  | 'D' => some (true, digitRanges)
  | 'w' => some (false, wordRanges)
  | 'W' => some (true, wordRanges)
  | 's' => some (false, spaceRanges)
  | 'S' => some (true, spaceRanges)
  | 'h' => some (false, blankRanges)
  | 'H' => some (true, blankRanges)
  | 'v' => some (false, [('\n', '\x0d')])
  | 'N' => some (true, [('\n', '\n')])
  | _ => none

/-- The ranges of all other bytes and code points. -/
def complement (ranges : List (Char × Char)) : List (Char × Char) :=
  let sorted := ranges.mergeSort fun a b => a.1 ≤ b.1
  let (gaps, next) := sorted.foldl (fun (gaps, next) (low, high) =>
    let gaps := if next < low.toNat then gaps ++ [(Char.ofNat next, Char.ofNat (low.toNat - 1))]
      else gaps
    (gaps, max next (high.toNat + 1))) (([] : List (Char × Char)), 0)
  gaps ++ [(Char.ofNat next, Char.ofNat 0x10ffff)]

/-- The sign that a letter behind a backslash stands for, and what follows it. -/
def signEscape? (isRich : Bool) : Text → Option (Char × Text)
  | 'n' :: rest => some ('\n', rest)
  | 't' :: rest => some ('\t', rest)
  | 'r' :: rest => some ('\r', rest)
  | 'f' :: rest => some ('\x0c', rest)
  | 'a' :: rest => some ('\x07', rest)
  | 'v' :: rest => if isRich then none else some ('\x0b', rest)
  | 'e' :: rest => if isRich then some ('\x1b', rest) else none
  | 'x' :: '\x7b' :: rest => do
      let (digits, rest) ← Text.splitFirst ['\x7d'] rest
      let (n, _) ← digitsOf 16 8 digits
      return (Char.ofNat n, rest)
  | 'x' :: rest => (digitsOf 16 2 rest).map fun (n, rest) => (Char.ofNat n, rest)
  | 'c' :: c :: rest => some (Char.ofNat (c.toUpper.toNat ^^^ 64), rest)
  | 'o' :: rest => if isRich then none
      else (digitsOf 8 3 rest).map fun (n, rest) => (Char.ofNat (n % 256), rest)
  | '0' :: rest => if isRich then
      match digitsOf 8 2 rest with
      | some (n, rest) => some (Char.ofNat n, rest)
      | none => some ('\x00', rest)
    else none
  | _ => none

/-- The ranges up to the bracket that closes, and what follows it. -/
def ranges? (m : Manner) : Nat → Bool → Text → Option (List (Char × Char) × Text)
  | 0, _, _ => none
  | _ + 1, _, [] => none
  | fuel + 1, isFirst, c :: rest =>
      let single (low : Char) (rest : Text) : Option (List (Char × Char) × Text) :=
        match rest with
        | '-' :: d :: others =>
            if d = ']' then do
              let (more, after) ← ranges? m fuel false rest
              return ((low, low) :: more, after)
            else
              let (high, others) :=
                if d = '\\' && m.escapes then
                  match signEscape? (m.style = .rich) others, others with
                  | some (e, others), _ => (e, others)
                  | none, e :: others => (e, others)
                  | none, [] => (d, others)
                else if d = '[' && others.head? = some '.' then
                  match Text.splitFirst ".]".toList others.tail with
                  | some ([e], others) => (e, others)
                  | _ => (d, others)
                else (d, others)
              if high < low then none
              else do
                let (more, after) ← ranges? m fuel false others
                return ((low, high) :: more, after)
        | rest => do
            let (more, after) ← ranges? m fuel false rest
            return ((low, low) :: more, after)
      if c = ']' && !isFirst then some ([], rest)
      else if c = '[' && rest.head? = some ':' then
        match Text.splitFirst ":]".toList rest.tail with
        | some (name, rest) => do
            let isNegated := m.style = .rich && name.head? = some '^'
            let (_, found) ← classes.find? (·.1 == if isNegated then name.tail else name)
            let (more, after) ← ranges? m fuel false rest
            return ((if isNegated then complement found else found) ++ more, after)
        | none => single c rest
      else if c = '[' && (rest.head? = some '=' || rest.head? = some '.') then
        match Text.splitFirst [rest.headD '=', ']'] rest.tail with
        | some ([d], rest) => single d rest
        | _ => single c rest
      else if c = '\\' && m.escapes then
        match signEscape? (m.style = .rich) rest, rest with
        | some (d, rest), _ => single d rest
        | none, d :: rest =>
            match if m.style = .rich then class? d else none with
            | some (isNegated, found) => do
                let (more, after) ← ranges? m fuel false rest
                return ((if isNegated then complement found else found) ++ more, after)
            | none =>
                if m.style = .rich && d = 'b' then single '\x08' rest
                else single d rest
        | none, [] => none
      else single c rest

/-- The set whose bracket has been opened, and what follows it. -/
def letters? (m : Manner) (t : Text) : Option (Letters × Text) :=
  let isNegated := t.head? == some '^'
  let t := if isNegated then t.tail else t
  (ranges? m (t.length + 1) true t).map fun (ranges, rest) => (⟨isNegated, ranges, m.folds⟩, rest)

/-- How often something is to be repeated, by a sign or in braces, and what follows. -/
def counts? (m : Manner) (t : Text) : Option ((Nat × Option Nat) × Text) :=
  match m.style, t with
  | _, '*' :: rest => some ((0, none), rest)
  | .basic, '\\' :: '+' :: rest => some ((1, none), rest)
  | .basic, '\\' :: '?' :: rest => some ((0, some 1), rest)
  | .basic, '\\' :: '\x7b' :: rest => inside "\\\x7d".toList rest
  | .basic, _ => none
  | _, '+' :: rest => some ((1, none), rest)
  | _, '?' :: rest => some ((0, some 1), rest)
  | _, '\x7b' :: rest => if m.braces then inside ['\x7d'] rest else none
  | _, _ => none
where
  /-- The numbers in braces. -/
  inside (closes rest : Text) : Option ((Nat × Option Nat) × Text) := do
    let (t, rest) ← Text.splitFirst closes rest
    let number (t : Text) : Nat := t.foldl (fun n c => 10 * n + (c.toNat - '0'.toNat)) 0
    match Text.splitFirst [','] t with
    | none =>
        if t.isEmpty || !t.all Char.isDigit then none
        else return ((number t, some (number t)), rest)
    | some (least, most) =>
        if !least.all Char.isDigit || !most.all Char.isDigit then none
        else if most.isEmpty then
          if least.isEmpty && m.style = .rich then none else return ((number least, none), rest)
        else if number most < number least then none
        else return ((number least, some (number most)), rest)

/-- The braces that begin here make no sense. -/
def hasBadBraces (m : Manner) (t : Text) : Bool :=
  match m.style, t with
  | .basic, '\\' :: '\x7b' :: _ => (counts? m t).isNone
  | .extended, '\x7b' :: rest =>
      let isNumeric := (Text.splitFirst ['\x7d'] rest).any fun (inner, _) =>
        inner.any Char.isDigit && inner.all fun c => c.isDigit || c == ','
      m.braces && (isNumeric || !m.isLenient) && (counts? m t).isNone
  | _, _ => false

/-- What has been read: the expression, the number of groups so far, how many of them are open,
their names, what follows, and how it is read. -/
structure Progress where
  found : Regular
  groups : Nat
  depth : Nat
  names : Table Nat
  rest : Text
  manner : Manner

/-- The letters that set how an expression is read, and what follows them. -/
def flagged (m : Manner) (isOn : Bool) : Text → Manner × Text
  | 'i' :: rest => flagged { m with folds := isOn } isOn rest
  | 'm' :: rest => flagged { m with isLined := isOn } isOn rest
  | 's' :: rest => flagged { m with dotIsAll := isOn } isOn rest
  | 'x' :: rest => flagged { m with isSpaced := isOn } isOn rest
  | '-' :: rest => flagged m false rest
  | c :: rest => if "anupl^".toList.contains c then flagged m isOn rest else (m, c :: rest)
  | [] => (m, [])

/-- The expression with the repetitions that follow it. -/
def repeated (m : Manner) : Nat → Regular → Text → Regular × Text
  | 0, r, t => (r, t)
  | fuel + 1, r, t =>
      match counts? m t with
      | none => (r, t)
      | some ((least, most), rest) =>
          if m.style = .rich then
            match rest with
            | '?' :: rest => repeated m fuel (.many least most false r) rest
            | '+' :: rest => repeated m fuel (.firmly (.many least most true r)) rest
            | rest => repeated m fuel (.many least most true r) rest
          else repeated m fuel (.many least most true r) rest

/-- What a backslash and what follows it stand for, if that is no group. -/
def escaped? (m : Manner) (names : Table Nat) (groups : Nat) (t : Text) : Option (Regular × Text) :=
  let place (p : Position) (rest : Text) : Option (Regular × Text) := some (.position p, rest)
  let plain (c : Char) (rest : Text) : Option (Regular × Text) :=
    some (.letter ⟨false, [(c, c)], m.folds⟩, rest)
  let isRich := m.style = .rich
  match t with
  | [] => none
  | 'b' :: rest => place .wordEdge rest
  | 'B' :: rest => place .noWordEdge rest
  | '<' :: rest => if isRich then plain '<' rest else place .wordStart rest
  | '>' :: rest => if isRich then plain '>' rest else place .wordEnd rest
  | '\x60' :: rest => if isRich then plain '\x60' rest else place .textStart rest
  | '\x27' :: rest => if isRich then plain '\x27' rest else place .textEnd rest
  | c :: rest =>
      let isClass := isRich || "wWsS".toList.contains c
      match if isClass then class? c else none with
      | some (isNegated, ranges) => some (.letter ⟨isNegated, ranges, false⟩, rest)
      | none =>
          if isRich && c = 'A' then place .textStart rest
          else if isRich && c = 'z' then place .textEnd rest
          else if isRich && c = 'Z' then place .lastEnd rest
          else if isRich && c = 'G' then some (.empty, rest)
          else if isRich && c = 'K' then some (.cut, rest)
          else if isRich && c = 'R' then
            some (.either ((ofText false ['\r', '\n'])) (.letter ⟨false, [('\n', '\x0d')],
              false⟩), rest)
          else if isRich && c = 'k' then
            match rest with
            | open' :: rest =>
                let close := if open' = '<' then '>' else if open' = '\x7b' then '\x7d' else open'
                match Text.splitFirst [close] rest with
                | some (name, rest) => (Table.get? names name).map fun n => (.again n m.folds, rest)
                | none => none
            | [] => none
          else if isRich && c = 'g' then
            let (inside, after) := match rest with
              | '\x7b' :: rest => (Text.splitFirst ['\x7d'] rest).getD (rest, [])
              | rest => (rest.takeWhile Char.isDigit, rest.dropWhile Char.isDigit)
            match inside with
            | '-' :: digits => (digitsOf 10 9 digits).map fun (n, _) =>
                (.again (groups + 1 - n) m.folds, after)
            | inside =>
                match digitsOf 10 9 inside with
                | some (n, _) => some (.again n m.folds, after)
                | none => (Table.get? names inside).map fun n => (.again n m.folds, after)
          else if c.isDigit && c ≠ '0' then
            if isRich then
              let (n, after) := (digitsOf 10 9 (c :: rest)).getD (0, rest)
              if n < 10 || n ≤ groups then some (.again n m.folds, after)
              else (digitsOf 8 3 (c :: rest)).map fun (n, rest) =>
                (.letter ⟨false, [(Char.ofNat n, Char.ofNat n)], m.folds⟩, rest)
            else if m.style = .extended && m.escapes then
              (digitsOf 8 3 (c :: rest)).elim (plain c rest) fun (n, rest) =>
                plain (Char.ofNat n) rest
            else if (c.toNat - '0'.toNat) ≤ groups then
              some (.again (c.toNat - '0'.toNat) m.folds, rest)
            else none
          else
            match if m.escapes then signEscape? isRich (c :: rest) else none with
            | some (d, rest) => plain d rest
            | none => plain c rest

/-- Blanks and remarks that count for nothing are left out. -/
def withoutBlanks (m : Manner) : Nat → Text → Text
  | 0, t => t
  | fuel + 1, t =>
      if !m.isSpaced then t
      else
        match t with
        | '#' :: rest => withoutBlanks m fuel (rest.dropWhile (· ≠ '\n'))
        | c :: rest => if c = ' ' || ('\t' ≤ c && c ≤ '\x0d') then withoutBlanks m fuel rest
            else c :: rest
        | [] => []

mutual

/-- Alternatives, up to the bracket that closes or the end. -/
def readAll : Nat → Progress → Option Progress
  | 0, _ => none
  | fuel + 1, p => do
      let first ← readOne fuel true { p with found := .empty }
      let (_, _, bar) := p.manner.brackets
      if bar.isPrefixOf first.rest then
        let second ← readAll fuel { first with rest := first.rest.drop bar.length }
        return { second with found := .either first.found second.found }
      else return first

/-- Expressions one after the other. -/
def readOne : Nat → Bool → Progress → Option Progress
  | 0, _, _ => none
  | fuel + 1, isFirst, p => do
      let (_, closes, bar) := p.manner.brackets
      let rest := withoutBlanks p.manner (p.rest.length + 1) p.rest
      let p := { p with rest := rest }
      let closesHere := closes.isPrefixOf rest && (0 < p.depth || !p.manner.closesAlone)
      if rest.isEmpty || closesHere || bar.isPrefixOf rest then return p
      else
        let before := p.found
        let atom ← readAtom fuel isFirst { p with found := .empty }
        let isStart := atom.found = .position .textStart || atom.found = .position .lineStart
        let rest := withoutBlanks atom.manner (atom.rest.length + 1) atom.rest
        let repeats := !(isStart && p.manner.style ≠ .rich) && !(hasBadBraces p.manner rest)
        if hasBadBraces p.manner rest && !isStart then none
        else
          let (found, rest) := if repeats then repeated atom.manner 8 atom.found rest
            else (atom.found, rest)
          readOne fuel (isStart && p.manner.style ≠ .rich)
            { atom with found := before.followedBy found, rest := rest }

/-- One sign, a set or a group. -/
def readAtom : Nat → Bool → Progress → Option Progress
  | 0, _, _ => none
  | fuel + 1, isFirst, p =>
      let m := p.manner
      let (opens, closes, bar) := m.brackets
      if opens.isPrefixOf p.rest then
        readGroup fuel { p with rest := p.rest.drop opens.length }
      else
        match p.rest with
        | [] => none
        | '\\' :: rest =>
            (escaped? m p.names p.groups rest).map fun (found, rest) =>
              { p with found := found, rest := rest }
        | '.' :: rest =>
            let set : Letters := if m.dotIsAll then ⟨true, [], false⟩
                else ⟨true, [('\n', '\n')], false⟩
            some { p with found := .letter set, rest := rest }
        | '[' :: rest => (letters? m rest).map fun (set, rest) =>
            { p with found := .letter set, rest := rest }
        | '^' :: rest =>
            if m.style = .basic && !isFirst then
              some { p with found := ofText m.folds ['^'], rest := rest }
            else
              let place := if !m.isLined then Position.textStart
                else if m.style = .rich then .openLine else .lineStart
              some { p with found := .position place, rest := rest }
        | '$' :: rest =>
            let isLast := rest.isEmpty || closes.isPrefixOf rest || bar.isPrefixOf rest
            if m.style = .basic && !isLast then
              some { p with found := ofText m.folds ['$'], rest := rest }
            else
              let place := if m.isLined then Position.lineEnd
                else if m.style = .rich then .lastEnd else .textEnd
              some { p with found := .position place, rest := rest }
        | c :: rest =>
            let repeatsNothing := "*+?".toList.contains c && (isFirst || m.style = .rich)
            if repeatsNothing && m.style ≠ .basic then
              if m.isLenient then some { p with found := .empty, rest := rest } else none
            else some { p with found := ofText m.folds [c], rest := rest }

/-- What follows the sign that opens a group. -/
def readGroup : Nat → Progress → Option Progress
  | 0, _ => none
  | fuel + 1, p =>
      let (_, closes, _) := p.manner.brackets
      let inside (p : Progress) (f : Regular → Regular) (outer : Manner) : Option Progress := do
        let inner ← readAll fuel { p with depth := p.depth + 1 }
        if closes.isPrefixOf inner.rest then
          return { inner with
            found := f inner.found
            depth := p.depth
            rest := inner.rest.drop closes.length
            manner := outer }
        else none
      let numbered (p : Progress) : Option Progress :=
        let n := p.groups + 1
        inside { p with groups := n } (.group n) p.manner
      let named (close : Char) (rest : Text) : Option Progress := do
        let (name, rest) ← Text.splitFirst [close] rest
        numbered { p with names := p.names ++ [(name, p.groups + 1)], rest := rest }
      if p.manner.style ≠ .rich then numbered p
      else
        match p.rest with
        | '?' :: ':' :: rest => inside { p with rest := rest } id p.manner
        | '?' :: '|' :: rest => inside { p with rest := rest } id p.manner
        | '?' :: '=' :: rest => inside { p with rest := rest } (.look true true) p.manner
        | '?' :: '!' :: rest => inside { p with rest := rest } (.look true false) p.manner
        | '?' :: '<' :: '=' :: rest => inside { p with rest := rest } (.look false true) p.manner
        | '?' :: '<' :: '!' :: rest => inside { p with rest := rest } (.look false false) p.manner
        | '?' :: '>' :: rest => inside { p with rest := rest } .firmly p.manner
        | '?' :: '#' :: rest => do
            let (_, rest) ← Text.splitFirst [')'] rest
            return { p with found := .empty, rest := rest }
        | '?' :: 'P' :: '<' :: rest => named '>' rest
        | '?' :: '<' :: rest => named '>' rest
        | '?' :: '\x27' :: rest => named '\x27' rest
        | '?' :: rest =>
            let (m, rest) := flagged p.manner true rest
            match rest with
            | ')' :: rest => some { p with found := .empty, rest := rest, manner := m }
            | ':' :: rest => inside { p with rest := rest, manner := m } id p.manner
            | _ => none
        | _ => numbered p

end

/-- Reads an expression; its groups may have names. -/
def ofTextNamed? (m : Manner) (t : Text) : Option (Regular × Table Nat) := do
  let p ← readAll (8 * (t.length + 2)) ⟨.empty, 0, 0, [], t, m⟩
  if p.rest.isEmpty then return (p.found, p.names) else none

/-- Reads an expression. -/
def ofText? (m : Manner) (t : Text) : Option Regular := (ofTextNamed? m t).map Prod.fst

end Regular

/-- What a group has taken in counts, and the longest way to fit is looked for. -/
example : ((Regular.ofText? (.ofStyle .extended) "(a|ab)(c|bcd)?".toList).bind
    (·.find? true "xabcd".toList 0)).map (·.text "xabcd".toList) = some "abcd".toList := by
  decide +kernel

end KeyMenu.Sh
