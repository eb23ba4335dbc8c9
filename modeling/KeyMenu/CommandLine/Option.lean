import KeyMenu.Text.Numeral

/-!
# Options of the command line

An option is written in full (`--config`), in short (`-c`), or by any beginning of its full form
that begins no other. Its value follows as the next argument, or after an equals sign, or directly
after the short form. Short options can be bundled in one argument, behind the first of them or
behind the equals sign after it.

`Argument.classify` tells options from words, where negative numbers, a lone dash and texts with a
space are words.
-/

namespace KeyMenu

/-- The options of the program. -/
inductive Flag
  | help
  | local
  | config
  | onInvalidKey
  | verbose
  | version
  deriving DecidableEq

namespace Flag

/-- All options, in the order in which they are listed. -/
def all : List Flag := [.help, .local, .config, .onInvalidKey, .verbose, .version]

/-- The short form of an option, without its dash. -/
def short? : Flag → Option Char
  | .help => some 'h'
  | .local => some 'l'
  | .config => some 'c'
  | .onInvalidKey => none
  | .verbose => some 'v'
  | .version => none

/-- The full form of an option. -/
def full : Flag → Text
  | .help => "--help".toList
  | .local => "--local".toList
  | .config => "--config".toList
  | .onInvalidKey => "--on-invalid-key".toList
  | .verbose => "--verbose".toList
  | .version => "--version".toList

/-- The forms of an option. -/
def forms (f : Flag) : List Text := (f.short?.map fun c => ['-', c]).toList ++ [f.full]

/-- The option as messages name it. -/
def shown (f : Flag) : Text := Text.joinWith ['/'] f.forms

/-- The option has a value. -/
def takesValue : Flag → Bool
  | .config => true
  | .onInvalidKey => true
  | _ => false

/-- The option of a short form. -/
def ofShort? (c : Char) : Option Flag := all.find? (·.short? == some c)

/-- The option that is written in exactly this way. -/
def ofForm? (t : Text) : Option Flag := all.find? (·.forms.contains t)

/-- The options whose full forms begin in this way. -/
def beginning (t : Text) : List Flag := all.filter fun f => t.isPrefixOf f.full

theorem ofForm?_full (f : Flag) : ofForm? f.full = some f := by
  cases f <;> decide

end Flag

/-- What is wrong with a command line. -/
inductive UsageError
  | ambiguous (argument : Text) (candidates : List Flag)
  | missingValue (flag : Flag)
  | unwantedValue (flag : Flag) (value : Text)
  | unknownPolicy (value : Text)
  | unrecognized (arguments : List Text)
  deriving DecidableEq

/-- What an argument is. The dashes that end the options are a separator. `isShort` says that an
option is written in short, so that what is attached to it in its argument may be more options. -/
inductive Argument
  | word (text : Text)
  | separator
  | option (flag : Flag) (isShort : Bool) (attached : Option Text)
  | unknown (text : Text)
  deriving DecidableEq

namespace Argument

/-- The argument that ends the options. -/
def dashes : Text := ['-', '-']

/-- The argument as it was written, where it is no known option. -/
def text : Argument → Text
  | .word t => t
  | .separator => dashes
  | .option flag _ _ => flag.full
  | .unknown t => t

/-- Decimal digits, at least one. -/
def isDigits (t : Text) : Bool := !t.isEmpty && t.all fun c => (decimalValue? c).isSome

/-- A text without the line end after it. -/
def dropLineEnd (t : Text) : Text := if t.getLast? = some '\n' then t.dropLast else t

/-- A dash and a number, with or without a decimal point. -/
def isNegativeNumber : Text → Bool
  | '-' :: rest =>
      let number := dropLineEnd rest
      isDigits number ||
        match Text.splitFirst ['.'] number with
        | some (whole, fraction) => (whole.isEmpty || isDigits whole) && isDigits fraction
        | none => false
  | _ => false

/-- The option and its value in an argument with an equals sign. -/
def assignment? (t : Text) : Option (Text × Text) := Text.splitFirst ['='] t

/-- An argument that begins with a dash and is no form of an option. -/
def unlisted (t : Text) : Argument :=
  if isNegativeNumber t || ' ' ∈ t then .word t else .unknown t

/-- An argument that begins with two dashes and is no full form of an option: the beginning of
one, perhaps with a value. -/
def abbreviation (t : Text) : Except UsageError Argument :=
  let (written, attached) :=
    match assignment? t with
    | some (written, value) => (written, some value)
    | none => (t, none)
  match Flag.beginning written with
  | [] => .ok (unlisted t)
  | [flag] => .ok (.option flag false attached)
  | candidates => .error (.ambiguous t candidates)

/-- Tells what an argument is, where the options have not been ended. -/
def classify (t : Text) : Except UsageError Argument :=
  match t with
  | '-' :: c :: rest =>
      match Flag.ofForm? t with
      | some flag => .ok (.option flag (c ≠ '-') none)
      | none =>
          match (assignment? t).bind fun (form, value) => (Flag.ofForm? form).map (·, value) with
          | some (flag, value) => .ok (.option flag (c ≠ '-') (some value))
          | none =>
              if c = '-' then abbreviation t
              else
                match Flag.ofShort? c with
                | some flag => .ok (.option flag true (some rest))
                | none => .ok (unlisted t)
  | _ => .ok (.word t)

/-- Tells what the arguments are. After the separator all are words. -/
def classifyAll : List Text → Except UsageError (List Argument)
  | [] => .ok []
  | t :: rest =>
      if t = dashes then .ok (.separator :: rest.map .word)
      else do
        let first ← classify t
        let others ← classifyAll rest
        return first :: others

end Argument

end KeyMenu
