import KeyMenu.Proofs.Text.Span
import KeyMenu.Text.Blank

/-!
# Lines by line feeds and by all breaks

A text can be cut at LF alone, or at every code point that ends lines (`Text.lines`). Both give the
same lines, a CR at their ends aside, as long as no line contains another break. In general the
second cut goes on where the first one ends.

* `Text.lineAround`: the line around an offset, cut at LF, and its place among all such lines
  (`Text.getElem?_splitOn`);
* `Text.allPieces`: the lines cut at LF, each cut further at the breaks inside it, which gives the
  lines at every break (`Text.getElem?_lines`);
* `Text.Unbroken`: a line that is not cut further; where all lines are, both cuts agree
  (`Text.getElem?_flatMap_pieces`).
-/

namespace KeyMenu.Text

variable {t s line : Text} {c : Char}

/-! ### Lines by line feeds -/

/-- What stands on the line before an offset: the code points behind the last LF. -/
def lineBefore (t : Text) (offset : Nat) : Text :=
  ((t.take offset).reverse.takeWhile (· ≠ '\n')).reverse

/-- The line around an offset: what stands between the last LF before it and the next LF. -/
def lineAround (t : Text) (offset : Nat) : Text :=
  lineBefore t offset ++ (t.drop offset).takeWhile (· ≠ '\n')

/-- There is one line more than there are line feeds. -/
theorem length_splitOn (t : Text) : (t.splitOn '\n').length = t.count '\n' + 1 := by
  induction t with
  | nil => rfl
  | cons c t ih =>
      rw [List.splitOn_cons_eq_if_modifyHead]
      by_cases hc : c = '\n' <;> simp [hc, ih]

theorem getElem?_splitOn_zero (t : Text) :
    (t.splitOn '\n')[0]? = some (t.takeWhile (· ≠ '\n')) := by
  induction t with
  | nil => rfl
  | cons c t ih =>
      rw [List.splitOn_cons_eq_if_modifyHead]
      by_cases hc : c = '\n'
      · simp [hc]
      · simp [hc] at ih ⊢
        simp [ih]

/-- The text before an offset consists of whole lines and the beginning of one. -/
theorem take_eq_lineBefore (t : Text) (offset : Nat) :
    t.take offset = lineBefore t offset ∨
      ∃ front, t.take offset = front ++ '\n' :: lineBefore t offset := by
  have happend := List.takeWhile_append_dropWhile (p := (· ≠ '\n')) (l := (t.take offset).reverse)
  have hhead := List.head?_dropWhile_not (· ≠ '\n') (t.take offset).reverse
  rw [← List.reverse_eq_iff, List.reverse_append] at happend
  cases hd : (t.take offset).reverse.dropWhile (· ≠ '\n') with
  | nil =>
      rw [hd] at happend
      exact .inl happend.symm
  | cons d front =>
      rw [hd] at happend hhead
      obtain rfl : d = '\n' := by simpa using hhead
      exact .inr ⟨front.reverse, by simpa [lineBefore] using happend.symm⟩

theorem newline_notMem_lineBefore (t : Text) (offset : Nat) : '\n' ∉ lineBefore t offset := by
  intro h
  have hne := of_mem_takeWhile (List.mem_reverse.1 h)
  simp at hne

/-- **The line around an offset comes behind as many lines as there are line feeds before it.** -/
theorem getElem?_splitOn (t : Text) (offset : Nat) :
    (t.splitOn '\n')[(t.take offset).count '\n']? = some (lineAround t offset) := by
  have hbefore := newline_notMem_lineBefore t offset
  have hfirst : ((lineBefore t offset ++ t.drop offset).splitOn '\n')[0]? =
      some (lineAround t offset) := by
    rw [getElem?_splitOn_zero, List.takeWhile_append_of_pos]
    · rfl
    · exact fun c hc => decide_eq_true fun heq => hbefore (heq ▸ hc)
  have ht := List.take_append_drop offset t
  rcases take_eq_lineBefore t offset with heq | ⟨front, heq⟩
  · rw [heq] at ht
    rw [heq, List.count_eq_zero_of_not_mem hbefore, ← hfirst, ht]
  · rw [heq, List.append_assoc, List.cons_append] at ht
    have hsplit : t.splitOn '\n' =
        front.splitOn '\n' ++ (lineBefore t offset ++ t.drop offset).splitOn '\n' := by
      rw [← List.splitOn_append_cons_self, ht]
    have hcount : (t.take offset).count '\n' = (front.splitOn '\n').length := by
      rw [heq, length_splitOn, List.count_append, List.count_cons_self,
        List.count_eq_zero_of_not_mem hbefore]
    rw [hsplit, hcount, List.getElem?_append_right (Nat.le_refl _), Nat.sub_self, hfirst]

/-! ### Lines at every break -/

/-- A line without the CR that may stand at its end. -/
def dropCR (line : Text) : Text := if line.getLast? = some '\r' then line.dropLast else line

/-- No line ends inside the line, a CR at its end aside. -/
def Unbroken (line : Text) : Prop := ∀ c ∈ dropCR line, isLineBreak c = false

/-- What the line is cut into at the breaks inside it. -/
def pieces (line : Text) : List Text := (dropCR line).splitOnP isLineBreak

theorem dropCR_cons (h : c = '\r' → line ≠ []) : dropCR (c :: line) = c :: dropCR line := by
  cases line with
  | nil =>
      have hc : c ≠ '\r' := fun hc => h hc rfl
      simp [dropCR, hc]
  | cons d line =>
      rw [dropCR, dropCR, List.getLast?_cons_cons, List.dropLast_cons_cons]
      split <;> rfl

theorem pieces_cons (h : c = '\r' → line ≠ []) :
    pieces (c :: line) =
      if isLineBreak c then [] :: pieces line else (pieces line).modifyHead (c :: ·) := by
  rw [pieces, dropCR_cons h, List.splitOnP_cons_eq_if_modifyHead, pieces]

theorem Unbroken.pieces_eq (h : Unbroken line) : pieces line = [dropCR line] :=
  List.splitOnP_eq_singleton h

/-- All pieces of a text, line by line. -/
def allPieces (t : Text) : List Text := (t.splitOn '\n').flatMap pieces

theorem allPieces_newline (t : Text) : allPieces ('\n' :: t) = [] :: allPieces t := by
  rw [allPieces, List.splitOn_cons_eq_if_modifyHead, if_pos (beq_self_eq_true _)]
  rfl

theorem allPieces_crlf (t : Text) : allPieces ('\r' :: '\n' :: t) = [] :: allPieces t := by
  rw [allPieces, List.splitOn_cons_eq_if_modifyHead, List.splitOn_cons_eq_if_modifyHead]
  rfl

/-- In front of the rest of a line a break ends a piece, and any other code point goes on with the
first one. -/
theorem allPieces_cons (hnewline : c ≠ '\n') (hcr : c = '\r' → t.takeWhile (· ≠ '\n') ≠ []) :
    allPieces (c :: t) =
      if isLineBreak c then [] :: allPieces t else (allPieces t).modifyHead (c :: ·) := by
  obtain ⟨first, more, hs⟩ := List.exists_cons_of_ne_nil (List.splitOn_ne_nil '\n' t)
  have hfirst : t.takeWhile (· ≠ '\n') = first := by
    have hzero := getElem?_splitOn_zero t
    rw [hs] at hzero
    exact (Option.some.inj hzero).symm
  rw [allPieces, allPieces, List.splitOn_cons_eq_if_modifyHead, hs,
    if_neg (by simpa using hnewline), List.modifyHead_cons, List.flatMap_cons, List.flatMap_cons,
    pieces_cons (hfirst ▸ hcr)]
  split
  · rfl
  · obtain ⟨piece, others, hp⟩ := List.exists_cons_of_ne_nil
      (List.splitOnP_ne_nil isLineBreak (dropCR first))
    rw [pieces, hp]
    rfl

theorem allPieces_ne_nil (t : Text) : allPieces t ≠ [] := by
  obtain ⟨first, more, hs⟩ := List.exists_cons_of_ne_nil (List.splitOn_ne_nil '\n' t)
  rw [allPieces, hs, List.flatMap_cons]
  exact List.append_ne_nil_of_left_ne_nil (List.splitOnP_ne_nil _ _) _

/-- A line whose first code point is no break and no CR goes on with the first piece. -/
theorem allPieces_cons_of_not_break (hbreak : ¬ isLineBreak c = true) :
    allPieces (c :: t) = (allPieces t).modifyHead (c :: ·) := by
  have hnewline : c ≠ '\n' := by
    rintro rfl
    exact hbreak (by decide)
  have hcr : c = '\r' → t.takeWhile (· ≠ '\n') ≠ [] := by
    rintro rfl
    exact absurd (by decide) hbreak
  rw [allPieces_cons hnewline hcr, if_neg hbreak]

theorem lines_cons (h : ∀ rest, c = '\r' → t = '\n' :: rest → False) :
    lines (c :: t) =
      if isLineBreak c then [] :: lines t
      else
        match lines t with
        | [] => [[c]]
        | line :: more => (c :: line) :: more :=
  lines.eq_3 c t h

/-- The lines of a text are the pieces of its lines by line feeds, where an empty piece at the very
end counts as no line. -/
theorem allPieces_eq (t : Text) : allPieces t = lines t ∨ allPieces t = lines t ++ [[]] := by
  induction t using lines.induct with
  | case1 => exact .inr rfl
  | case2 rest ih =>
      rw [allPieces_crlf, lines]
      exact ih.imp (congrArg _) (congrArg _)
  | case3 c rest hnot hbreak ih =>
      rw [lines_cons hnot, if_pos hbreak]
      by_cases hc : c = '\n'
      · rw [hc, allPieces_newline]
        exact ih.imp (congrArg _) (congrArg _)
      by_cases hcr : c = '\r' → rest.takeWhile (· ≠ '\n') ≠ []
      · rw [allPieces_cons hc hcr, if_pos hbreak]
        exact ih.imp (congrArg _) (congrArg _)
      · -- a CR at the very end, which ends the last line and opens no further one
        obtain ⟨rfl, hrest⟩ : c = '\r' ∧ rest.takeWhile (· ≠ '\n') = [] := by
          simpa using hcr
        cases rest with
        | nil => exact .inl rfl
        | cons d rest =>
            obtain rfl : d = '\n' := by simpa [List.takeWhile_cons] using hrest
            exact absurd rfl (hnot rest rfl)
  | case4 c rest hnot hbreak hlines ih =>
      rw [lines_cons hnot, if_neg hbreak, hlines, allPieces_cons_of_not_break hbreak]
      rw [hlines] at ih
      rcases ih with ih | ih
      · exact absurd ih (allPieces_ne_nil rest)
      · exact .inl (by rw [ih]; rfl)
  | case5 c rest hnot hbreak line more hlines ih =>
      rw [lines_cons hnot, if_neg hbreak, hlines, allPieces_cons_of_not_break hbreak]
      rw [hlines] at ih
      rcases ih with ih | ih
      · exact .inl (by rw [ih]; rfl)
      · exact .inr (by rw [ih]; rfl)

/-- The line at an index among all lines, as a piece. -/
theorem getElem?_lines (t : Text) (n : Nat) :
    (lines t)[n]?.getD [] = (allPieces t)[n]?.getD [] := by
  rcases allPieces_eq t with h | h
  · rw [h]
  · rw [h]
    rcases Nat.lt_trichotomy n (lines t).length with hn | hn | hn
    · rw [List.getElem?_append_left hn]
    · rw [hn]
      simp
    · rw [List.getElem?_eq_none (Nat.le_of_lt hn), List.getElem?_eq_none]
      rw [List.length_append]
      exact hn

/-- Lines that are not broken are pieces of their own. -/
theorem getElem?_flatMap_pieces {all : List Text} {n : Nat}
    (h : ∀ line ∈ all.take (n + 1), Unbroken line) :
    (all.flatMap pieces)[n]? = all[n]?.map dropCR := by
  induction all generalizing n with
  | nil => rfl
  | cons line all ih =>
      rw [List.take_succ_cons, List.forall_mem_cons] at h
      rw [List.flatMap_cons, h.1.pieces_eq]
      cases n with
      | zero => rfl
      | succ n => exact ih h.2

/-- No line contains a break. -/
theorem unbroken_of_mem_lines (h : line ∈ lines t) : ∀ c ∈ line, isLineBreak c = false := by
  induction t using lines.induct generalizing line with
  | case1 => cases h
  | case2 rest ih =>
      rw [lines] at h
      rcases List.mem_cons.1 h with rfl | h
      · exact fun _ hc => absurd hc List.not_mem_nil
      · exact ih h
  | case3 c rest hnot hbreak ih =>
      rw [lines_cons hnot, if_pos hbreak] at h
      rcases List.mem_cons.1 h with rfl | h
      · exact fun _ hc => absurd hc List.not_mem_nil
      · exact ih h
  | case4 c rest hnot hbreak hlines ih =>
      rw [lines_cons hnot, if_neg hbreak, hlines, List.mem_singleton] at h
      rw [h, List.forall_mem_singleton]
      exact Bool.eq_false_iff.2 hbreak
  | case5 c rest hnot hbreak first more hlines ih =>
      rw [lines_cons hnot, if_neg hbreak, hlines] at h
      rw [hlines] at ih
      rcases List.mem_cons.1 h with rfl | h
      · exact List.forall_mem_cons.2 ⟨Bool.eq_false_iff.2 hbreak, ih List.mem_cons_self⟩
      · exact ih (List.mem_cons_of_mem _ h)

end KeyMenu.Text
