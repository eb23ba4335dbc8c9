import KeyMenu.Text.Basic

/-!
# Spans

A run of code points of one class is read back from in front of anything that does not go on with
the class.
-/

namespace KeyMenu.Text

variable {p : Char → Bool} {run rest : Text}

theorem takeWhile_append_eq (hrun : ∀ c ∈ run, p c = true) (hrest : ∀ c ∈ rest.head?, p c = false) :
    (run ++ rest).takeWhile p = run := by
  rw [List.takeWhile_append_of_pos hrun]
  cases rest with
  | nil => simp
  | cons c rest => simp [hrest c rfl]

/-- The code points of a run that is read belong to the class. -/
theorem of_mem_takeWhile {t : Text} {c : Char} (h : c ∈ t.takeWhile p) : p c = true :=
  List.all_eq_true.1 List.all_takeWhile c h

/-- What follows a run that is read does not go on with the class. -/
theorem of_mem_head?_dropWhile {t : Text} {c : Char} (h : c ∈ (t.dropWhile p).head?) :
    p c = false := by
  have hhead := List.head?_dropWhile_not p t
  rw [Option.mem_def.1 h] at hhead
  simpa using hhead

end KeyMenu.Text
