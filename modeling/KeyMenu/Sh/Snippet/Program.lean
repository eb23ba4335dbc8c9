import KeyMenu.Sh.Snippet.Run

/-!
# Programs that are snippets

The words that start a snippet say where its text is and how it is carried out: once, or for each
line of the input, and what a line is. `Switches.read` reads them, `Switches.whole` gives the text
with what goes around it, and `interpretSnippet` carries it out.
-/

namespace KeyMenu.Sh

namespace Snippet

/-- How a snippet is carried out: its parts, if they are among the words; whether it is carried out
for each line, and shows the line afterwards; whether lines lose their ends and are cut, and where;
what ends a line; the name under which a file is kept that is changed in place; the modules to be
loaded; and whether the snippet is only read, or takes values from switches of its own. -/
structure Switches where
  parts : List Text
  isLooped : Bool
  shows : Bool
  chomps : Bool
  cuts : Option Text
  separator : Scalar
  ending : Option Text
  kept : Option Text
  modules : List Text
  onlyReads : Bool
  takesValues : Bool
  skips : Bool

/-- What keeps a snippet from being carried out. -/
inductive Refusal
  | unknownSwitch (t : Text)
  | noPart (c : Char)
  | told (t : Text)

namespace Switches

/-- Nothing is asked for. -/
def plain : Switches :=
  ⟨[], false, false, false, none, .text ['\n'], none, none, [], false, false, false⟩

/-- What a number in octal digits says about the ends of lines. -/
def separatorOf (digits : Text) : Scalar :=
  match digits with
  | [] => .text ['\x00']
  | digits =>
      let n := ((numberIn? 8 digits).getD 0).toNat
      if digits = ['0'] then .text [] else if n = 0o777 then .undefined
      else if 256 ≤ n then .undefined else .text [Char.ofNat n]

/-- The text that loads a module. -/
def loading (isOff : Bool) (t : Text) : Text :=
  let (isOff, t) := match t with
    | '-' :: t => (true, t)
    | t => (isOff, t)
  let name := t.takeWhile (· != '=')
  (if isOff then "no ".toList else "use ".toList) ++ name ++ [';']

/-- Reads the letters of a word, with the words that follow. -/
def letters : Nat → Text → List Text → Switches → Except Refusal (Switches × List Text)
  | 0, _, words, s => .ok (s, words)
  | _ + 1, [], words, s => .ok (s, words)
  | fuel + 1, c :: rest, words, s =>
      let go (s : Switches) : Except Refusal (Switches × List Text) := letters fuel rest words s
      let part (extra : Text) : Except Refusal (Switches × List Text) :=
        match rest, words with
        | [], word :: words => .ok ({ s with parts := s.parts ++ [extra ++ word] }, words)
        | [], [] => .error (.noPart c)
        | rest, words => .ok ({ s with parts := s.parts ++ [extra ++ rest] }, words)
      match c with
      | 'e' => part []
      | 'E' => part []
      | 'n' => go { s with isLooped := true }
      | 'p' => go { s with isLooped := true, shows := true }
      | 'a' => go { s with isLooped := true, cuts := s.cuts.or (some " ".toList) }
      | 'l' =>
          let digits := rest.takeWhile Char.isDigit
          let ending := if digits.isEmpty then s.separator.spelling
            else (separatorOf digits).spelling
          letters fuel (rest.drop digits.length) words
            { s with chomps := true, ending := some ending }
      | '0' =>
          let digits := rest.takeWhile Char.isDigit
          letters fuel (rest.drop digits.length) words { s with separator := separatorOf digits }
      | 'F' => .ok ({ s with isLooped := true, cuts := some rest }, words)
      | 'i' => .ok ({ s with kept := some (rest.takeWhile (· != ' ')) }, words)
      | 'M' => .ok ({ s with modules := s.modules ++ [loading false rest] }, words)
      | 'm' => .ok ({ s with modules := s.modules ++ [loading false rest] }, words)
      | 'I' => if rest.isEmpty then .ok (s, words.drop 1) else .ok (s, words)
      | 'C' => .ok (s, words)
      | 'D' => .ok (s, words)
      | 'V' => .error (.told "Summary of my perl5\n".toList)
      | 'v' => .error (.told ("\nThis is perl 5, version 38, subversion 2 (v5.38.2)".toList ++
          " built for x86_64-linux-gnu-thread-multi\n".toList))
      | 'h' => .error (.told "Usage: perl [switches] [--] [programfile] [arguments]\n".toList)
      | '?' => .error (.told "Usage: perl [switches] [--] [programfile] [arguments]\n".toList)
      | 'x' => .ok ({ s with skips := true }, words)
      | 'c' => go { s with onlyReads := true }
      | 's' => go { s with takesValues := true }
      | '-' => go s
      | c => if "wWtTXuUfSg".toList.contains c then
            go (if c = 'g' then { s with separator := .undefined } else s)
          else .error (.unknownSwitch ('-' :: c :: rest))

/-- Reads words up to the first one that is no switch. -/
def read : List Text → Switches → Except Refusal (Switches × List Text) := fun words s =>
  readWords (words.length + 1) words s
where
  /-- Reads so many words at most. -/
  readWords : Nat → List Text → Switches → Except Refusal (Switches × List Text)
    | 0, words, s => .ok (s, words)
    | fuel + 1, words, s =>
        match words with
        | ['-', '-'] :: words => .ok (s, words)
        | ('-' :: '-' :: t) :: _ => .error (.unknownSwitch ('-' :: '-' :: t))
        | ('-' :: c :: rest) :: words => do
            let (s, words) ← letters (rest.length + 2) (c :: rest) words s
            readWords fuel words s
        | words => .ok (s, words)

/-- The switches on the first line of a text. -/
def ofFirstLine (t : Text) (s : Switches) : Switches :=
  let line := t.takeWhile (· != '\n')
  if line.take 2 != ['#', '!'] then s
  else
    let words := Rules.blankWords ((Text.splitFirst "perl".toList line).map Prod.snd |>.getD [])
    match read words s with
    | .ok (s, _) => s
    | .error _ => s

/-- The pattern at which lines are cut. -/
def cutPattern (t : Text) : Text :=
  match t with
  | [' '] => "\x27 \x27".toList
  | '/' :: rest => '/' :: rest
  | '"' :: rest => '"' :: rest
  | '\x27' :: rest => '\x27' :: rest
  | t => ['/'] ++ (t.flatMap fun c => if c = '/' then ['\\', '/'] else [c]) ++ ['/']

/-- A text with what goes around it. -/
def whole (s : Switches) (t : Text) : Text :=
  let loads := s.modules.flatten
  if !s.isLooped then loads ++ t
  else
    loads ++ "LINE: while (defined($_ = readline ARGV)) \x7b".toList ++
      (if s.chomps then "chomp;".toList else []) ++
      (match s.cuts with
        | some p => "our @F=split(".toList ++ cutPattern p ++ ");".toList
        | none => []) ++ t ++ "\n;\x7d".toList ++
      (if s.shows then " continue \x7b print or die \"-p destination: $!\\n\"; \x7d".toList else [])

end Switches

/-- The parts of a text before and behind the mark for data. -/
def dataOf (t : Text) : Option Text :=
  let behind (mark : String) : Option Text :=
    ((Text.splitFirst mark.toList ('\n' :: t)).map Prod.snd)
  (behind "\n__END__\n").or (behind "\n__DATA__\n")

/-- Gives the snippet the values of switches in front of its words. -/
def takeValues : List Text → Act (List Text)
  | ('-' :: c :: rest) :: words => do
      if c = '-' && rest.isEmpty then return words
      let t := c :: rest
      let name := t.takeWhile (· != '=')
      let value : Scalar :=
        if name.length < t.length then .text (t.drop (name.length + 1)) else .ofInt 1
      putScalar (← cellOf '$' name) value
      takeValues words
  | words => return words

/-- A machine at its beginning. -/
def Machine.start (s : State) (program : Text) (w : Switches) : Machine :=
  { state := s, cells := #[], shared := ∅, inSight := [], base := [], depth := 0, saved := []
    handles := [], found := none, places := ∅, flipped := [], shown := []
    endings := [], offset := 0
    program := program, wantsList := none, errorNumber := 0, lastFile := [], hasRead := false
    changing := w.kept.map fun suffix => ⟨suffix, none, []⟩, seed := s.self, alarm := none
    status := 0 }

/-- Gives the variables their values that are there from the beginning. -/
def prepareVariables (w : Switches) (name : Text) (words : List Text) : Act Unit := do
  setShared "0" (.text name)
  setShared "/" w.separator
  setShared "\\" ((w.ending.map Scalar.text).getD .undefined)
  setShared "\"" (.text [' '])
  setShared ";" (.text ['\x1c'])
  setShared "?" (.ofInt 0)
  setShared "@" (.text [])
  setShared "|" (.ofInt 0)
  let environment := (← get).state.environment
  setTable (← cellOf '%' "ENV".toList)
    (environment.flatMap fun (name, value) => [.text name, .text value])
  let words ← if w.takesValues then takeValues words else pure words
  setList (← cellOf '@' argumentFile) (words.map .text)
  match dataOf (← get).program with
  | some t =>
      let _ ← openText "DATA".toList t
  | none => pure ()

/-- Carries out the text of a snippet under a name. -/
def carryOut (runners : Runners) (w : Switches) (name t : Text) (words : List Text) (s : State) :
    State :=
  let program := w.whole t
  let fail (n : Int) (message : Text) : State := (s.mutter message).withStatus n
  match programOf program with
  | .error (line, message) =>
      let t := message ++ " at ".toList ++ name ++ " line ".toList ++
          Text.ofNat line ++ ".\n".toList
      fail 255 (t ++ "Execution of ".toList ++ name ++
        " aborted due to compilation errors.\n".toList)
  | .ok statements =>
      if w.onlyReads then (s.mutter (name ++ " syntax OK\n".toList)).withStatus 0
      else
        let act : Act Unit := do
          prepareVariables w name words
          runSnippet runners statements
        let (result, m) := act.run.run (.start s program w)
        match result with
        | .error .replaced => m.state
        | .error .halted => m.state
        | _ => if m.state.isStopped then m.state else m.state.withStatus (m.status % 256)

/-- The text of a snippet behind the line with which it begins among others. -/
def behindRubbish (t : Text) : Option Text :=
  let lines := splitAt '\n' t
  let begins (line : Text) : Bool :=
    line.take 2 == ['#', '!'] && (Text.splitFirst "perl".toList line).isSome
  match lines.dropWhile (!begins ·) with
  | [] => none
  | lines => some (Text.joinWith ['\n'] lines)

end Snippet

open Snippet in
/-- Carries out snippets. -/
def interpretSnippet : Agent := fun runners words s =>
  let s := s.withStatus 0
  let fail (n : Int) (message : Text) : State := (s.mutter message).withStatus n
  match Switches.read words .plain with
  | .error (.unknownSwitch t) =>
      fail 25 ("Unrecognized switch: ".toList ++ t ++ "  (-h will show valid options).\n".toList)
  | .error (.noPart c) => fail 25 ("No code specified for -".toList ++ [c] ++ ".\n".toList)
  | .error (.told t) => s.write t
  | .ok (w, rest) =>
      if !w.parts.isEmpty then
        carryOut runners w "-e".toList (Text.joinWith ['\n'] w.parts ++ ['\n']) rest s
      else
        let run (name t : Text) (words : List Text) (s : State) : State :=
          let t := if w.skips then behindRubbish t else some t
          match t with
          | some t => carryOut runners (w.ofFirstLine t) name t words s
          | none => (s.mutter "No Perl script found in input\n".toList).withStatus 255
        match rest with
        | [] =>
            let (s, t) := s.readAll
            run ['-'] t [] s
        | ['-'] :: words =>
            let (s, t) := s.readAll
            run ['-'] t words s
        | path :: words =>
            match s.textAt path with
            | .ok (s, t) => run path t words s
            | .error fault =>
                fail (faultNumber fault) ("Can\x27t open perl script \"".toList ++ path ++
                  "\": ".toList ++
                  fault.message ++ ['\n'])

end KeyMenu.Sh
