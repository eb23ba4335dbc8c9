import KeyMenu.Sh.Builtin.Basic
import KeyMenu.Sh.Lookup

/-!
# The working directory

A shell remembers the way by which it has come to its working directory: two dots lead back along
it. One of the shells keeps a pile of directories besides.
-/

namespace KeyMenu.Sh

/-- The names on the way that a path goes from another one on; two dots take the last one away. -/
def wayAlong (way : List Text) : List Text → List Text
  | [] => way
  | name :: names =>
      if name = ['.'] then wayAlong way names
      else if name = ['.', '.'] then wayAlong way.dropLast names
      else wayAlong (way ++ [name]) names

namespace State

/-- The path to which a path leads from the place where a shell is, by the way it says. -/
def pathAlong (s : State) (path : Text) : Text :=
  let whole := if path.head? = some '/' then path else s.place ++ '/' :: path
  let names := whole.slashPieces.filter (!·.isEmpty)
  let start := if "//".toList.isPrefixOf whole && !"///".toList.isPrefixOf whole &&
      !(path.head? ≠ some '/' && !"//".toList.isPrefixOf s.place) then "//".toList else ['/']
  start ++ Text.joinWith ['/'] (wayAlong [] names)

/-- Whether the directories behind which two dots stand are there. -/
def hasWay (s : State) (path : Text) : Bool :=
  let whole := if path.head? = some '/' then path else s.place ++ '/' :: path
  let names := whole.slashPieces.filter (!·.isEmpty)
  (List.range names.length).all fun n =>
    names[n]? != some ['.', '.'] || s.hasDirectory ('/' :: Text.joinWith ['/'] (names.take n))

/-- Goes to a directory, and remembers where it was before; there is the fault if that cannot be
done. -/
def goTo (isPhysical : Bool) (path : Text) (s : State) : Except Fault State := do
  let along := s.pathAlong path
  let isAlong := !isPhysical && (s.dialect = .dash || s.hasWay path)
  let n ← match if isAlong then s.inodeAt true along else .error .notFound with
    | .ok n => .ok n
    | .error _ => s.inodeAt true path
  if !s.world.store.isDirectory n then .error .notADirectory
  else
    let before := (s.value? "PWD".toList).getD s.place
    let isThere := isAlong && (s.inodeAt true along).toOption = some n
    let place := if isThere then along else s.world.store.pathOf n
    let s := { s with here := n, place := place }
    let s := (s.putValue "OLDPWD".toList before).putValue "PWD".toList place
    .ok (if s.dialect = .dash then (s.exportName "OLDPWD".toList).exportName "PWD".toList else s)

end State

/-- Writes the working directory. -/
def showDirectory : Tool := fun words s =>
  if s.dialect = .dash && words.any (fun w => w.take 2 = ['-', '-'] && w.length > 2) then
    s.withStatus 2
  else if words.any fun w => w.head? = some '-' && ["-P", "-L", "--"].all (·.toList != w) then
    s.withStatus 2
  else
    let isPhysical := (words.filter fun w => w = "-P".toList || w = "-L".toList).getLast? =
      some "-P".toList || s.isOn "physical"
    s.write ((if isPhysical then s.directory else s.place) ++ ['\n'])

/-- Changes the working directory; it may be said to be the one before. A name that begins with
neither a slash nor a dot is looked for in several directories, if there are any. -/
def changeDirectory : Tool := fun words s =>
  let (letters, operands) := words.span fun w => ["-P", "-L", "-e", "-@"].any (·.toList == w)
  let operands := if operands.head? = some ['-', '-'] then operands.tail else operands
  let isPhysical := (letters.filter fun w => w = "-P".toList || w = "-L".toList).getLast? =
    some "-P".toList || s.isOn "physical"
  let refused (t : Text) (fault : Fault) : State :=
    if s.dialect = .dash then (s.blame "cd".toList ("can't cd to ".toList ++ t)).withStatus 2
    else (s.blame "cd".toList (t ++ ": ".toList ++ fault.message)).withStatus 1
  let go (t : Text) : State :=
    if t.isEmpty then s.withStatus 0
    else
      match s.goTo isPhysical t with
      | .ok s => s.withStatus 0
      | .error fault => refused t fault
  let shown (s : State) : State := if s.status = 0 then s.write (s.place ++ ['\n']) else s
  if s.isOn "restricted" then (s.blame "cd".toList "restricted".toList).withStatus 1
  else
    match operands with
    | [] =>
        match s.value? "HOME".toList with
        | some home => go home
        | none => if s.dialect = .dash then s.withStatus 0
            else (s.blame "cd".toList "HOME not set".toList).withStatus 1
    | [['-']] =>
        match s.value? "OLDPWD".toList with
        | some before => shown (go before)
        | none => if s.dialect = .dash then s.withStatus 0
            else (s.blame "cd".toList "OLDPWD not set".toList).withStatus 1
    | target :: more =>
        if s.dialect = .bash && !more.isEmpty then
          (s.blame "cd".toList "too many arguments".toList).withStatus 1
        else if target = ['-'] then
          match s.value? "OLDPWD".toList with
          | some before => shown (go before)
          | none => s.withStatus 0
        else
          let isPlain := match target with
            | '/' :: _ => false
            | '.' :: '/' :: _ => false
            | '.' :: '.' :: '/' :: _ => false
            | ['.'] => false
            | ['.', '.'] => false
            | _ => true
          let places := if isPlain
              then ((s.value? "CDPATH".toList).filter (!·.isEmpty)).elim [] searchParts
            else []
          let found := (places.map fun place => (place, inDirectory place target)).find?
            fun (_, path) => s.hasDirectory path
          match found with
          | some (place, path) => if place.isEmpty || place = ['.'] then go target
              else shown (go path)
          | none => go target

/-! ### The pile -/

/-- A directory with a tilde for the home directory. -/
def State.abbreviated (s : State) (path : Text) : Text :=
  match s.value? "HOME".toList with
  | some (c :: home) =>
      let home := c :: home
      if path = home then ['~']
      else if (home ++ ['/']).isPrefixOf path && home ≠ ['/'] then '~' :: path.drop home.length
      else path
  | _ => path

/-- The place in the pile that a word with a sign means: from the top, or from the bottom. -/
def pilePlace? (size : Nat) (word : Text) : Option Nat :=
  match word with
  | '+' :: digits => (numberIn? 10 digits).map Int.toNat
  | '-' :: digits => (numberIn? 10 digits).bind fun n =>
      if n.toNat < size then some (size - 1 - n.toNat) else none
  | _ => none

/-- Shows the pile of directories. -/
def showPile : Tool := fun words s =>
  let pile := s.place :: s.directories
  let isPlace (w : Text) : Bool := (w.drop 1).all Char.isDigit && 1 < w.length
  let letters := (words.filter (!isPlace ·)).flatten
  let shown := if letters.contains 'l' then pile else pile.map s.abbreviated
  if letters.contains 'c' then { s with directories := [], status := 0 }
  else
    match words.find? isPlace with
    | some word => match (pilePlace? pile.length word).bind (shown[·]?) with
        | some t => s.write (t ++ ['\n'])
        | none => s.fail 1 "dirs".toList "directory stack index out of range".toList
    | none =>
        if letters.contains 'v' then
          s.write ((shown.zipIdx).flatMap fun (t, n) =>
            let digits := Text.ofNat n
            List.replicate (2 - digits.length) ' ' ++ digits ++ [' ', ' '] ++ t ++ ['\n'])
        else if letters.contains 'p' then s.write (shown.flatMap (· ++ ['\n']))
        else s.write (Text.joinWith [' '] shown ++ ['\n'])

/-- Goes to the directory on top of a pile, and shows the pile. -/
def State.goToTop (who : Text) (pile : List Text) (goes : Bool) (s : State) : State :=
  match pile with
  | [] => s.withStatus 1
  | top :: rest =>
      let gone := if goes then s.goTo false top else .ok s
      match gone with
      | .ok s => showPile [] { s with directories := rest, status := 0 }
      | .error fault => (s.blame who (top ++ ": ".toList ++ fault.message)).withStatus 1

/-- Puts a directory on the pile and goes there, or turns the pile. -/
def pushDirectory : Tool := fun words s =>
  let who := "pushd".toList
  let keeps := words.contains "-n".toList
  let operands := words.filter fun w => w ≠ "-n".toList && w ≠ "--".toList
  let pile := s.place :: s.directories
  match operands with
  | [] =>
      match s.directories with
      | [] => s.fail 1 who "no other directory".toList
      | next :: rest => s.goToTop who (next :: s.place :: rest) true
  | word :: _ =>
      if s.isOn "restricted" then s.withStatus 1
      else
        match if (word.drop 1).all Char.isDigit then pilePlace? pile.length word else none with
        | some n =>
            if n < pile.length then s.goToTop who (pile.drop n ++ pile.take n) (n ≠ 0)
            else s.fail 1 who (word ++ ": directory stack index out of range".toList)
        | none =>
            if keeps then showPile [] { s with directories := word :: s.directories, status := 0 }
            else
              match s.goTo false (if word = ['-'] then (s.value? "OLDPWD".toList).getD word
                else word) with
              | .ok after => showPile [] { after with
                  directories := s.place :: s.directories
                  status := 0 }
              | .error fault => s.fail 1 who (word ++ ": ".toList ++ fault.message)

/-- Takes a directory from the pile, and goes to the one below. -/
def popDirectory : Tool := fun words s =>
  let who := "popd".toList
  let keeps := words.contains "-n".toList
  let operands := words.filter fun w => w ≠ "-n".toList && w ≠ "--".toList
  let pile := s.place :: s.directories
  let n := match operands with
    | [] => if keeps then some 1 else some 0
    | word :: _ => pilePlace? pile.length word
  match s.directories, n with
  | [], _ => s.fail 1 who "directory stack empty".toList
  | _, none => s.fail 1 who "invalid argument".toList
  | _, some n =>
      if n < pile.length then
        s.goToTop who (pile.take n ++ pile.drop (n + 1)) (n = 0)
      else s.fail 1 who "directory stack index out of range".toList

end KeyMenu.Sh
