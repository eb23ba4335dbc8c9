import KeyMenu.Sh.Reckoning

/-!
# Commands of a shell

A command that a shell knows by itself makes another state of one, by its words (`Tool`). Words that
begin with a dash are options: single letters, some of them with values.
-/

namespace KeyMenu.Sh

/-- What a command does with its arguments. -/
abbrev Tool := List Text → State → State

/-- Does nothing with the given status. -/
def constant (n : Int) : Tool := fun _ s => s.withStatus n

namespace State

/-- A command of the shell complains. -/
def blame (who what : Text) (s : State) : State := s.report (who ++ ": ".toList ++ what)

/-- A command of the shell complains, and fails with a status. -/
def fail (n : Int) (who what : Text) (s : State) : State := (s.blame who what).withStatus n

end State

/-- The options at the beginning of words, by their letters, and the other words. -/
def lettersFirst : List Text → Text × List Text
  | ['-', '-'] :: words => ([], words)
  | ('-' :: c :: letters) :: words =>
      let (more, words) := lettersFirst words
      (c :: letters ++ more, words)
  | words => ([], words)

/-- The options at the beginning of words that are turned on or, behind a plus sign, off, and the
other words. -/
def signedLetters : List Text → Text × Text × List Text
  | ['-', '-'] :: words => ([], [], words)
  | (sign :: c :: letters) :: words =>
      let (on, off, others) := signedLetters words
      if sign = '-' then (c :: letters ++ on, off, others)
      else if sign = '+' then (on, c :: letters ++ off, others)
      else ([], [], (sign :: c :: letters) :: words)
  | words => ([], [], words)

/-- Options in front of other words; those of the given letters have values. -/
def optionsFirst (valued : Text) : List Text → List (Char × Text) × List Text
  | ['-', '-'] :: words => ([], words)
  | ('-' :: c :: letters) :: words =>
      let letters := c :: letters
      let plain := letters.takeWhile (!valued.contains ·)
      let found := plain.map fun c => (c, [])
      match letters.drop plain.length, words with
      | [], words =>
          let (more, others) := optionsFirst valued words
          (found ++ more, others)
      | [c], value :: words =>
          let (more, others) := optionsFirst valued words
          (found ++ (c, value) :: more, others)
      | c :: value, words =>
          let (more, others) := optionsFirst valued words
          (found ++ (c, value) :: more, others)
  | words => ([], words)

/-- The value of an option. -/
def optionValue? (options : List (Char × Text)) (c : Char) : Option Text :=
  (options.find? (·.1 == c)).map Prod.snd

/-- The words after a separator, which one of the shells knows. -/
def afterDashes (dialect : Dialect) (words : List Text) : List Text :=
  if dialect = .bash && words.head? = some ['-', '-'] then words.tail else words

/-- A variable and its value, where a word gives one. -/
def givenValue (word : Text) : Text × Option Text :=
  match Text.splitFirst ['='] word with
  | some (name, value) => (name, some value)
  | none => (word, none)

/-- The signs of a text up to a limit, in a time of so many thousandths of a second. -/
def secondsText? (t : Text) : Option Nat :=
  let (whole, fraction) := (Text.splitFirst ['.'] t).getD (t, [])
  if (whole ++ fraction).isEmpty || !(whole ++ fraction).all Char.isDigit then none
  else some ((1000 * digitsValue whole + digitsValue ((fraction ++ "000".toList).take 3)) *
    World.millisecond)

end KeyMenu.Sh
