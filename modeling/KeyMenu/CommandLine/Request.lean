import KeyMenu.CommandLine.Option
import KeyMenu.File.Path
import KeyMenu.Session.Policy
import KeyMenu.Text.Quoted

/-!
# Reading the command line

`Request.ofArguments` reads what is asked for. Options count in the order in which they stand: help
and the version end the reading at once, and a mistake is reported where it is met; only a mistake
in a bundle of options is met before the first of them counts. The first
words that stand together are the keys and the values for variables; words that come later, behind
options, are not recognized.
-/

namespace KeyMenu

/-- What the program is asked to do. -/
structure Request where
  keys : Option Text
  values : List Text
  isLocal : Bool
  config : Option Path
  policy : Option InvalidKeyPolicy
  verbosity : Nat
  deriving DecidableEq

/-- What a command line comes to. -/
inductive CommandLine
  | run (request : Request)
  | help
  | version
  deriving DecidableEq

namespace UsageError

/-- A complaint about an option. -/
def about (flag : Flag) (complaint : Text) : Text :=
  "argument ".toList ++ flag.shown ++ ": ".toList ++ complaint

/-- The wording of a mistake. -/
def message : UsageError → Text
  | .ambiguous argument candidates =>
      "ambiguous option: ".toList ++ argument ++ " could match ".toList ++
        Text.joinWith ", ".toList (candidates.map (·.full))
  | .missingValue flag => about flag "expected one argument".toList
  | .unwantedValue flag value =>
      about flag ("ignored explicit argument ".toList ++ value.quoted)
  | .unknownPolicy value =>
      about .onInvalidKey ("invalid choice: ".toList ++ value.quoted ++ " (choose from ".toList ++
        Text.joinWith ", ".toList (InvalidKeyPolicy.all.map (·.name.quoted)) ++ [')'])
  | .unrecognized arguments =>
      "unrecognized arguments: ".toList ++ Text.joinWith [' '] arguments

/-- A mistake as it is reported. -/
def report (e : UsageError) : Text := "dt: error: ".toList ++ e.message ++ ['\n']

end UsageError

/-! ### Options and their values -/

/-- Options taken from one argument, with their values; perhaps the last value is the next
argument. -/
structure TakenOptions where
  options : List (Flag × Option Text)
  usesNext : Bool
  deriving DecidableEq

namespace TakenOptions

/-- One more option, without a value, in front. -/
def before (flag : Flag) (t : TakenOptions) : TakenOptions :=
  { t with options := (flag, none) :: t.options }

/-- Takes an option with nothing behind it in its argument. -/
def alone (flag : Flag) (next : Option Text) : Except UsageError TakenOptions :=
  if flag.takesValue then
    match next with
    | some value => .ok ⟨[(flag, some value)], true⟩
    | none => .error (.missingValue flag)
  else .ok ⟨[(flag, none)], false⟩

/-- Takes an option with a value in its argument. The separator is no value: the option is then as
if it had not been given. -/
def withValue (flag : Flag) (value : Text) : Except UsageError TakenOptions :=
  if flag.takesValue then
    .ok ⟨[(flag, if value = Argument.dashes then none else some value)], false⟩
  else .error (.unwantedValue flag value)

/-- Takes a short option with a text attached to it: its value, or further short options. A text
that begins with no short option is a value that the option before it does not want. -/
def bundle (flag : Flag) (next : Option Text) : Text → Except UsageError TakenOptions
  | [] => withValue flag []
  | c :: more =>
      if flag.takesValue then withValue flag (c :: more)
      else
        match Flag.ofShort? c, more with
        | none, _ => .error (.unwantedValue flag (c :: more))
        | some inner, [] => (alone inner next).map (before flag)
        | some inner, d :: rest => (bundle inner next (d :: rest)).map (before flag)

/-- Takes the options of an argument. -/
def ofArgument (flag : Flag) (isShort : Bool) (attached next : Option Text) :
    Except UsageError TakenOptions :=
  match attached with
  | none => alone flag next
  | some text => if isShort then bundle flag next text else withValue flag text

end TakenOptions

/-! ### Requests -/

namespace Request

/-- Nothing in particular is asked for. -/
def plain : Request := ⟨none, [], false, none, none, 0⟩

/-- What an option adds to a request. -/
def add (r : Request) : Flag → Option Text → Except UsageError CommandLine
  | .help, _ => .ok .help
  | .version, _ => .ok .version
  | .local, _ => .ok (.run { r with isLocal := true })
  | .verbose, _ => .ok (.run { r with verbosity := r.verbosity + 1 })
  | .config, value => .ok (.run { r with config := value.map Path.ofText })
  | .onInvalidKey, none => .ok (.run { r with policy := none })
  | .onInvalidKey, some name =>
      match InvalidKeyPolicy.named? name with
      | some policy => .ok (.run { r with policy := some policy })
      | none => .error (.unknownPolicy name)

/-- What options add, up to the first that ends the reading. -/
def addAll (r : Request) : List (Flag × Option Text) → Except UsageError CommandLine
  | [] => .ok (.run r)
  | (flag, value) :: more =>
      match r.add flag value with
      | .ok (.run r) => r.addAll more
      | other => other

/-- The words from which the keys are taken, and those from which the values are: the separator
goes with the word beside it. -/
def splitWords : List Argument → List Argument × List Argument
  | .separator :: keys :: rest => ([.separator, keys], rest)
  | keys :: .separator :: rest => ([keys, .separator], rest)
  | keys :: rest => ([keys], rest)
  | [] => ([], [])

/-- The texts of words; one separator is left out. -/
def textsOf (words : List Argument) : List Text := (words.map (·.text)).erase Argument.dashes

/-- Takes keys and values from words. -/
def takeWords (r : Request) (words : List Argument) : Request :=
  let (first, others) := splitWords words
  { r with keys := (textsOf first).head?, values := textsOf others }

/-- The argument is a word or the separator. -/
def isWord : Argument → Bool
  | .word _ => true
  | .separator => true
  | _ => false

/-- The word at the beginning of what follows an option. -/
def nextWord : List Argument → Option Text
  | .word t :: _ => some t
  | _ => none

/-- A reading of the command line on its way. -/
structure Progress where
  request : Request
  wordsTaken : Bool
  unrecognized : List Text

/-- Words go to the keys and values the first time. -/
def Progress.word (p : Progress) (words : List Argument) : Progress :=
  if p.wordsTaken then { p with unrecognized := p.unrecognized ++ words.map (·.text) }
  else { p with request := p.request.takeWords words, wordsTaken := true }

/-- The end of the reading. -/
def Progress.finish (p : Progress) : Except UsageError CommandLine :=
  if p.unrecognized.isEmpty then .ok (.run p.request)
  else .error (.unrecognized p.unrecognized)

/-- Reads the arguments from the given progress on. -/
def readFrom (p : Progress) : List Argument → Except UsageError CommandLine
  | [] => p.finish
  | .unknown t :: rest => readFrom { p with unrecognized := p.unrecognized ++ [t] } rest
  | .option flag isShort attached :: rest =>
      match TakenOptions.ofArgument flag isShort attached (nextWord rest) with
      | .error e => .error e
      | .ok taken =>
          match p.request.addAll taken.options with
          | .ok (.run r) =>
              readFrom { p with request := r } (if taken.usesNext then rest.drop 1 else rest)
          | other => other
  | first :: rest =>
      readFrom (p.word (first :: rest.takeWhile isWord)) (rest.dropWhile isWord)
termination_by arguments => arguments.length
decreasing_by
  · simp
  · have : (rest.drop 1).length ≤ rest.length := by
      rw [List.length_drop]
      omega
    split <;> simp only [List.length_cons] <;> omega
  · have := (List.dropWhile_sublist isWord (l := rest)).length_le
    simp only [List.length_cons]
    omega

/-- Reads a command line. -/
def ofArguments (arguments : List Text) : Except UsageError CommandLine :=
  match Argument.classifyAll arguments with
  | .error e => .error e
  | .ok classified => readFrom ⟨plain, false, []⟩ classified

end Request

end KeyMenu
