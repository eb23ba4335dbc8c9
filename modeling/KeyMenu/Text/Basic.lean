/-!
# Texts

A text is a list of code points: keys, names, titles, command strings and whole
configuration files are texts, and lengths, columns and orderings count code points.

* `Text`, and `Text.joinWith`, `Text.ofNat`, `Text.ofInt`;
* `Text.le` and `Text.sorted`: the code point order that key tables and lists of names use;
* `Text.splitFirst`: a text around the first occurrence of another.
-/

namespace KeyMenu

/-- A text: its code points in order. -/
abbrev Text := List Char

/-- Equality of texts is decided code point by code point. -/
instance : LawfulBEq Text := inferInstance

/-- The hash of a text combines the hashes of its code points, from the first to the last. -/
instance : Hashable Text := ⟨fun t => t.foldl (fun h c => mixHash h (hash c.val)) 7⟩

namespace Text

/-- The parts with `separator` between neighbours. -/
def joinWith (separator : Text) : List Text → Text
  | [] => []
  | [part] => part
  | part :: parts => part ++ separator ++ joinWith separator parts

@[simp] theorem joinWith_nil (s : Text) : joinWith s [] = [] := rfl

@[simp] theorem joinWith_singleton (s p : Text) : joinWith s [p] = p := rfl

theorem joinWith_cons (s p : Text) {ps : List Text} (h : ps ≠ []) :
    joinWith s (p :: ps) = p ++ s ++ joinWith s ps := by
  cases ps with
  | nil => exact absurd rfl h
  | cons q qs => rfl

/-- A number in decimal digits. -/
def ofNat (n : Nat) : Text := Nat.toDigits 10 n

/-- A whole number in decimal digits, with a sign when it is negative. -/
def ofInt : Int → Text
  | .ofNat n => ofNat n
  | .negSucc n => '-' :: ofNat (n + 1)

/-! ### Code point order -/

/-- `a` comes no later than `b` when texts are ordered by their code points. -/
def le : Text → Text → Bool
  | [], _ => true
  | _ :: _, [] => false
  | a :: s, b :: t => a.toNat < b.toNat || (a == b && le s t)

theorem le_refl (s : Text) : le s s = true := by
  induction s with
  | nil => rfl
  | cons c s ih => simp [le, ih]

/-- The texts in code point order, repetitions kept. -/
def sorted (texts : List Text) : List Text := texts.mergeSort le

@[simp] theorem length_sorted (texts : List Text) : (sorted texts).length = texts.length :=
  List.length_mergeSort texts

/-- The distinct texts of a list in code point order. -/
def sortedSet (texts : List Text) : List Text := sorted texts.eraseDups

/-! ### Finding one text in another -/

/-- The text before the first occurrence of `mark`, and the text after it. -/
def splitFirst (mark : Text) : Text → Option (Text × Text)
  | [] => if mark = [] then some ([], []) else none
  | c :: rest =>
      if mark.isPrefixOf (c :: rest) then some ([], (c :: rest).drop mark.length)
      else (splitFirst mark rest).map fun (before, after) => (c :: before, after)

/-- The two sides of a split and the mark between them give the text back. -/
theorem append_of_splitFirst {mark t before after : Text}
    (h : splitFirst mark t = some (before, after)) : before ++ mark ++ after = t := by
  induction t generalizing before with
  | nil =>
      by_cases hm : mark = []
      · simp [splitFirst, hm] at h
        simp [h, hm]
      · simp [splitFirst, hm] at h
  | cons c rest ih =>
      unfold splitFirst at h
      split at h
      · rename_i hp
        obtain ⟨u, hu⟩ := List.isPrefixOf_iff_prefix.1 hp
        simp only [Option.some.injEq, Prod.mk.injEq] at h
        obtain ⟨rfl, rfl⟩ := h
        simp [← hu]
      · obtain ⟨⟨b, a⟩, hs, he⟩ := Option.map_eq_some_iff.1 h
        simp only [Prod.mk.injEq] at he
        obtain ⟨rfl, rfl⟩ := he
        simp only [List.cons_append, List.cons.injEq, true_and]
        exact ih hs

/-- `mark` occurs in the text. -/
def occurs (mark t : Text) : Bool := (splitFirst mark t).isSome

end Text

end KeyMenu
