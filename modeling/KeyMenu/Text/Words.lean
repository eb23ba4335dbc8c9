import KeyMenu.Text.Quoted
import KeyMenu.Text.Blank

/-!
# Splitting a line into words

The rule of a POSIX shell without comments: blanks separate words; single quotes keep everything,
double quotes everything but a backslash before a double quote or a backslash; outside quotes a
backslash keeps the next code point. `Text.words` follows it, `Text.arguments` also takes a text
of white space alone as no words and names the text in its complaint.
-/

namespace KeyMenu

/-- Why a text cannot be split. -/
inductive WordsFault
  | noClosingQuotation
  | noEscapedCharacter
  deriving DecidableEq

/-- The wording of a fault. -/
def WordsFault.message : WordsFault → Text
  | .noClosingQuotation => "No closing quotation".toList
  | .noEscapedCharacter => "No escaped character".toList

/-- Where the reader of a line stands. -/
inductive WordsMode
  | between
  | bare
  | single
  | double
  deriving DecidableEq

namespace Text

/-- The code points that separate words. -/
def isWordBreak (c : Char) : Bool := c == ' ' || c == '\t' || c == '\r' || c == '\n'

/-- The code point in front of the first word, which is the one being read. -/
def extendFirst (c : Char) : List Text → List Text
  | [] => [[c]]
  | word :: more => (c :: word) :: more

/-- The words from where the reader stands; inside a word the first of them is the rest of it. -/
def wordsFrom : WordsMode → Text → Except WordsFault (List Text)
  | .between, [] => .ok []
  | .bare, [] => .ok [[]]
  | .single, [] => .error .noClosingQuotation
  | .double, [] => .error .noClosingQuotation
  | .between, c :: rest =>
      if isWordBreak c then wordsFrom .between rest
      else if c = '\x27' then wordsFrom .single rest
      else if c = '"' then wordsFrom .double rest
      else if c = '\\' then
        match rest with
        | [] => .error .noEscapedCharacter
        | d :: rest => (wordsFrom .bare rest).map (extendFirst d)
      else (wordsFrom .bare rest).map (extendFirst c)
  | .bare, c :: rest =>
      if isWordBreak c then (wordsFrom .between rest).map ([] :: ·)
      else if c = '\x27' then wordsFrom .single rest
      else if c = '"' then wordsFrom .double rest
      else if c = '\\' then
        match rest with
        | [] => .error .noEscapedCharacter
        | d :: rest => (wordsFrom .bare rest).map (extendFirst d)
      else (wordsFrom .bare rest).map (extendFirst c)
  | .single, c :: rest =>
      if c = '\x27' then wordsFrom .bare rest
      else (wordsFrom .single rest).map (extendFirst c)
  | .double, c :: rest =>
      if c = '"' then wordsFrom .bare rest
      else if c = '\\' then
        match rest with
        | [] => .error .noEscapedCharacter
        | d :: rest =>
            if d = '"' || d = '\\' then (wordsFrom .double rest).map (extendFirst d)
            else (wordsFrom .double rest).map (extendFirst c ∘ extendFirst d)
      else (wordsFrom .double rest).map (extendFirst c)

/-- The words of a line. -/
def words (t : Text) : Except WordsFault (List Text) := wordsFrom .between t

/-- A text that cannot be split, without the white space around it, and the reason. -/
structure UnsplittableText where
  shown : Text
  fault : WordsFault
  deriving DecidableEq

/-- The wording of a refusal to split. -/
def UnsplittableText.message (e : UnsplittableText) : Text :=
  "Cannot split arguments ".toList ++ quoted e.shown ++ ": ".toList ++ e.fault.message

/-- The words of a text; white space alone, of any kind, has none. -/
def arguments (t : Text) : Except UnsplittableText (List Text) :=
  if t.isBlankText then .ok []
  else
    match words t with
    | .ok found => .ok found
    | .error fault => .error ⟨t.strip, fault⟩

end Text

end KeyMenu
