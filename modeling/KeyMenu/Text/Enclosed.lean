import KeyMenu.Text.Words

/-!
# Words written for a shell

Single quotes keep everything but a single quote, which is written by itself in double quotes. So
every list of words can be written as a line, and the line splits into the same words
(`Text.words_line`).
-/

namespace KeyMenu

namespace Text

/-- A code point as it is written between single quotes. -/
def enclosedChar (c : Char) : Text := if c = '\x27' then "'\"'\"'".toList else [c]

/-- A text in single quotes. -/
def enclosed (t : Text) : Text := '\x27' :: t.flatMap enclosedChar ++ ['\x27']

/-- A line of the given words. -/
def line (words : List Text) : Text := joinWith [' '] (words.map enclosed)

/-- Text in front of the first word. -/
def extendFirstBy (t : Text) (words : List Text) : List Text := t.foldr extendFirst words

@[simp] theorem extendFirstBy_nil (ws : List Text) : extendFirstBy [] ws = ws := rfl

@[simp] theorem extendFirstBy_cons (c : Char) (t : Text) (ws : List Text) :
    extendFirstBy (c :: t) ws = extendFirst c (extendFirstBy t ws) := rfl

@[simp] theorem extendFirstBy_word (t w : Text) (ws : List Text) :
    extendFirstBy t (w :: ws) = (t ++ w) :: ws := by
  induction t with
  | nil => rfl
  | cons c t ih => simp [ih, extendFirst]

/-- Between words a single quote begins a quoted part. -/
theorem wordsFrom_between_quote (rest : Text) :
    wordsFrom .between ('\x27' :: rest) = wordsFrom .single rest := by
  rw [wordsFrom.eq_def]
  simp [isWordBreak]

/-- So it does inside a word. -/
theorem wordsFrom_bare_quote (rest : Text) :
    wordsFrom .bare ('\x27' :: rest) = wordsFrom .single rest := by
  rw [wordsFrom.eq_def]
  simp [isWordBreak]

/-- A space ends a word. -/
theorem wordsFrom_bare_space (rest : Text) :
    wordsFrom .bare (' ' :: rest) = (wordsFrom .between rest).map ([] :: ·) := by
  rw [wordsFrom.eq_def]
  simp [isWordBreak]

/-- Double quotes begin inside a word. -/
theorem wordsFrom_bare_doubleQuote (rest : Text) :
    wordsFrom .bare ('"' :: rest) = wordsFrom .double rest := by
  rw [wordsFrom.eq_def]
  simp [isWordBreak]

/-- They end there too. -/
theorem wordsFrom_double_doubleQuote (rest : Text) :
    wordsFrom .double ('"' :: rest) = wordsFrom .bare rest := by
  rw [wordsFrom.eq_def]
  simp

/-- Between them a single quote stands for itself. -/
theorem wordsFrom_double_quote (rest : Text) :
    wordsFrom .double ('\x27' :: rest) = (wordsFrom .double rest).map (extendFirst '\x27') := by
  rw [wordsFrom.eq_def]
  simp

/-- Inside a word, a single quote in double quotes gives itself. -/
theorem wordsFrom_bare_quotedQuote (rest : Text) :
    wordsFrom .bare ('"' :: '\x27' :: '"' :: rest) =
      (wordsFrom .bare rest).map (extendFirst '\x27') := by
  rw [wordsFrom_bare_doubleQuote, wordsFrom_double_quote, wordsFrom_double_doubleQuote]

/-- Inside single quotes a written code point gives itself. -/
theorem wordsFrom_enclosedChar (c : Char) (rest : Text) :
    wordsFrom .single (enclosedChar c ++ rest) =
      (wordsFrom .single rest).map (extendFirst c) := by
  by_cases h : c = '\x27'
  · subst h
    change wordsFrom .single ('\x27' :: '"' :: '\x27' :: '"' :: '\x27' :: rest) = _
    rw [wordsFrom, if_pos rfl, wordsFrom_bare_quotedQuote, wordsFrom_bare_quote]
  · simp [enclosedChar, wordsFrom, h]

/-- Inside single quotes a written text gives itself, up to the quote that ends it. -/
theorem wordsFrom_flatMap_enclosedChar (t rest : Text) :
    wordsFrom .single (t.flatMap enclosedChar ++ '\x27' :: rest) =
      (wordsFrom .bare rest).map (extendFirstBy t) := by
  induction t with
  | nil =>
      simp only [List.flatMap_nil, List.nil_append, wordsFrom, if_true]
      cases wordsFrom .bare rest <;> rfl
  | cons c t ih =>
      rw [List.flatMap_cons, List.append_assoc, wordsFrom_enclosedChar, ih]
      cases wordsFrom .bare rest <;> rfl

/-- A text in single quotes begins a word with itself. -/
theorem wordsFrom_enclosed (t rest : Text) :
    wordsFrom .between (enclosed t ++ rest) =
      (wordsFrom .bare rest).map (extendFirstBy t) := by
  rw [← wordsFrom_flatMap_enclosedChar, ← wordsFrom_between_quote]
  simp [enclosed]

/-- A line splits into the words it was written from. -/
theorem words_line (ws : List Text) : words (line ws) = .ok ws := by
  induction ws with
  | nil => rfl
  | cons w ws ih =>
      cases ws with
      | nil =>
          have h := wordsFrom_enclosed w []
          simpa [words, line, wordsFrom, Except.map] using h
      | cons v vs =>
          have hline : line (w :: v :: vs) = enclosed w ++ ' ' :: line (v :: vs) := by
            simp [line, joinWith]
          rw [words] at ih ⊢
          rw [hline, wordsFrom_enclosed, wordsFrom_bare_space, ih]
          simp [Except.map]

end Text

end KeyMenu
