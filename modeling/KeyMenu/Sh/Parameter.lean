import KeyMenu.Sh.Field
import KeyMenu.Sh.Quoting
import KeyMenu.Sh.Reckoning

/-!
# Parameters

What is done to the value of a parameter once everything beside its name has been expanded: parts of
it are cut off, taken out or exchanged, or it is written in another way (`Change`).
-/

namespace KeyMenu.Sh

/-- The range of a list that begins at a number and has a length; numbers below zero count from the
end. There is none where the end comes before the beginning. -/
def ranged {α : Type} (start : Int) (count : Option Int) (l : List α) : Option (List α) :=
  let size : Int := l.length
  let first := if start < 0 then start + size else start
  if first < 0 || size < first then some []
  else
    match count with
    | none => some (l.drop first.toNat)
    | some n =>
        if 0 ≤ n then some ((l.drop first.toNat).take n.toNat)
        else if size + n < first then none
        else some ((l.take (size + n).toNat).drop first.toNat)

/-- The part of a text in a range of its letters. -/
def sliced (isWide : Bool) (start : Int) (count : Option Int) (t : Text) : Option Text :=
  (ranged start count (widened isWide t)).map (narrowed isWide)

/-- The letters of a text that a pattern admits, or all of them, in capitals or in small letters;
all of them or only the first one. -/
def recased (folds toCapitals everywhere : Bool) (p : Pattern) (t : Text) : Text :=
  let change (c : Char) : Char :=
    if !p.isEmpty && !p.fits folds [c] then c else if toCapitals then capital c else small c
  if everywhere then t.map change
  else
    match t with
    | [] => []
    | c :: rest => change c :: rest

/-- What fits a pattern is exchanged. An unquoted number sign in front of the pattern ties it to the
beginning, a percent sign to the end; an unquoted ampersand in what is put there stands for what has
fitted. -/
def exchangedIn (rules : Pattern.Rules) (everywhere : Bool) (signs replacement : Signs)
    (t : Text) : Text :=
  let new (found : Text) : Text := replacement.flatMap fun s =>
    if s.char = '&' && !s.isQuoted then found else [s.char]
  let anchor := if everywhere then none else signs.head?
  if anchor = some ⟨'#', false⟩ then
    let p := Pattern.ofSigns rules signs.tail
    match (List.range (t.length + 1)).reverse.find? fun n => p.fits rules.folds (t.take n) with
    | some n => new (t.take n) ++ t.drop n
    | none => t
  else if anchor = some ⟨'%', false⟩ then
    let p := Pattern.ofSigns rules signs.tail
    match (List.range (t.length + 1)).find? fun n => p.fits rules.folds (t.drop n) with
    | some n => t.take n ++ new (t.drop n)
    | none => t
  else if signs.isEmpty then t
  else (Pattern.ofSigns rules signs).exchanged rules.folds new everywhere (t.length + 1) t

/-- The parameter stands for all arguments. -/
def isArguments (name : Text) : Bool := name = ['@'] || name = ['*']

/-- What a parameter stands for: one value, if it has any, or several that stay apart unless they
are made one. -/
inductive Source
  | one (value : Option Text)
  | all (isOne : Bool) (values : List Text)

namespace Source

/-- There is a value that counts: where the empty value does not, it is none. Of several values
there may be none at all, which one of the shells takes for an empty one. -/
def counts (dialect : Dialect) (forEmpty : Bool) : Source → Bool
  | .one value => value.any fun t => !(forEmpty && t.isEmpty)
  | .all _ [] => dialect = .dash && !forEmpty
  | .all _ values => !(forEmpty && values.all List.isEmpty)

/-- All values are changed. -/
def map (f : Text → Text) : Source → Source
  | .one value => .one (value.map f)
  | .all isOne values => .all isOne (values.map f)

/-- There is no value where there should be one. -/
def isMissing : Source → Bool
  | .one none => true
  | _ => false

end Source

/-- The piece stands for values that stay apart where it is quoted. -/
def Piece.isApart : Piece → Bool
  | .parameter true p =>
      p.name = ['@'] || (subscript? p.name).any (·.2 == .all false) || p.change = .namesLike false
  | _ => false

namespace State

/-- The letters of what a variable is. -/
def attributes (s : State) (name : Text) : Text :=
  match s.variableNamed? name with
  | none => []
  | some v =>
      let list := match v.value with
        | some (.many false _) => ['a']
        | some (.many true _) => ['A']
        | _ => []
      let has (b : Bool) (c : Char) : Text := if b then [c] else []
      list ++ has v.isNumber 'i' ++ has v.isSmall 'l' ++ has v.isReference 'n' ++
        has v.isFixed 'r' ++
        has v.isCapital 'u' ++ has v.isExported 'x'

/-- The values of a variable as they are written between brackets. -/
def listText (isKeyed : Bool) (values : Table Text) : Text :=
  '(' :: Text.joinWith [' '] (values.map fun (key, value) =>
    '[' :: (if isKeyed then backslashQuote key else key) ++ "]=".toList ++ doubleQuote value) ++
    (if isKeyed && !values.isEmpty then " )".toList else [')'])

/-- The command that declares a variable. -/
def declaration? (s : State) (name : Text) : Option Text :=
  if (s.variableNamed? name).isNone && (s.held? name).isNone then none
  else
    let letters := s.attributes name
    let value := match s.held? name with
      | none => []
      | some (.one t) => '=' :: doubleQuote t
      | some (.many isKeyed values) => '=' :: listText isKeyed values
    some ("declare -".toList ++ (if letters.isEmpty then ['-'] else letters) ++
      ' ' :: name ++ value)

/-- A value written in the way that a letter asks for. -/
def transformed (s : State) (name : Text) (letter : Char) (t : Text) : Text :=
  let w := s.shellIsWide
  match letter with
  | 'Q' => if t.any isHard then dollarQuote t else singleQuote t
  | 'K' => if t.any isHard then dollarQuote t else singleQuote t
  | 'k' => t
  | 'U' => narrowed w ((widened w t).map capital)
  | 'L' => narrowed w ((widened w t).map small)
  | 'u' => narrowed w (recased false true false [] (widened w t))
  | 'E' => ((dollarQuoted (t.length + 2)
      (t.flatMap (fun c => if c = '\x27' then ['\\', c] else [c]) ++ ['\x27'])).map Prod.fst).getD t
  | 'a' => s.attributes name
  | 'A' =>
      let letters := s.attributes name
      (if letters.isEmpty then [] else "declare -".toList ++ letters ++ [' ']) ++ name ++
        '=' :: singleQuote t
  | _ => t

/-- What a value comes to: cut by separators unless it is quoted or where nothing is cut. -/
def shown (s : State) (splits isQuoted : Bool) (t : Text) : List Item :=
  if isQuoted then Item.whole true t
  else Item.loose (if splits then s.separators else []) t

/-- What a parameter comes to. -/
def shownAll (s : State) (splits isQuoted : Bool) : Source → List Item
  | .one value => s.shown splits isQuoted (value.getD [])
  | .all isOne values =>
      if isOne && (isQuoted || !splits) then
        s.shown splits isQuoted (Text.joinWith (s.separators.take 1) values)
      else Item.apart (values.map (s.shown splits isQuoted))

/-- The directory for which a tilde and the name behind it stand. -/
def homeOf? (s : State) (name : Text) : Option Text :=
  match String.ofList name with
  | "" => (s.value? "HOME".toList).or (if s.dialect = .bash then some "/root".toList else none)
  | "root" => some "/root".toList
  | "+" => if s.dialect = .bash then s.value? "PWD".toList else none
  | "-" => if s.dialect = .bash then s.value? "OLDPWD".toList else none
  | "daemon" => some "/usr/sbin".toList
  | "bin" => some "/bin".toList
  | "nobody" => some "/nonexistent".toList
  | "www-data" => some "/var/www".toList
  | _ => none

/-- The plain signs at the beginning of a word, as far as they belong to a name behind a tilde. -/
def tildeName : Word → Text × Word
  | .literal false [c] :: rest =>
      if c = '/' || c = ':' then ([], .literal false [c] :: rest)
      else
        let (name, rest) := tildeName rest
        (c :: name, rest)
  | rest => ([], rest)

/-- A tilde at the beginning of a word is a home directory. -/
def homed (s : State) (w : Word) : Word :=
  match w with
  | .literal false ['~'] :: rest =>
      let (name, after) := tildeName rest
      let isWhole := after.isEmpty || after.head? = some (.literal false ['/']) ||
        after.head? = some (.literal false [':'])
      match if isWhole then s.homeOf? name else none with
      | some home =>
          let home := if home = ['/'] && after.head? = some (.literal false ['/']) then [] else home
          .literal true home :: after
      | none => w
  | w => w

/-- The tildes in a value that is assigned: at its beginning and behind colons. -/
def homedAll (s : State) : Nat → Word → Word
  | 0, w => w
  | fuel + 1, w =>
      match s.homed w with
      | [] => []
      | p :: rest =>
          let before := (p :: rest).takeWhile (· ≠ .literal false [':'])
          match (p :: rest).drop before.length with
          | colon :: after => before ++ colon :: s.homedAll fuel after
          | [] => before

end State

/-- A range of a text. -/
example : sliced false (-2) none "abcd".toList = some "cd".toList := by decide

end KeyMenu.Sh
