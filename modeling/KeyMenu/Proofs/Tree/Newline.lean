import KeyMenu.Proofs.Tree.Spelling
import KeyMenu.Text.Blank
import Mathlib.Data.List.Forall2

/-!
# Line ends in what is written

A file is read with every CR LF and every CR as one LF. Only the inside of strings is written with
code points that this touches, and it leaves the spelling of a string a spelling: quotes, escapes
and the marker stay what they are.

* `Text.unifyNewlines_append`: where a text can be cut;
* `Text.Unifies`: a text that is read as another wherever it stands;
* `Text.unifies_spelling`: the spelling of a string is read as that of the string with unified
  line ends.
-/

namespace KeyMenu.Text

variable {s t s' t' mark : Text} {c : Char}

/-! ### Unified line ends -/

theorem unifyNewlines_cons (h : c ≠ '\r') (t : Text) :
    unifyNewlines (c :: t) = c :: unifyNewlines t := by
  rw [unifyNewlines]
  · rw [if_neg h]
  · exact fun rest hc => absurd hc h

/-- A CR that no LF follows. -/
theorem unifyNewlines_cr (h : t.head? ≠ some '\n') :
    unifyNewlines ('\r' :: t) = '\n' :: unifyNewlines t := by
  rw [unifyNewlines]
  · rw [if_pos rfl]
  · rintro rest - rfl
    exact h rfl

/-- Induction along what is read as one code point. -/
theorem unifyNewlines_induction {motive : Text → Prop} (nil : motive [])
    (crlf : ∀ t, motive t → motive ('\r' :: '\n' :: t))
    (cr : ∀ t, t.head? ≠ some '\n' → motive t → motive ('\r' :: t))
    (plain : ∀ c t, c ≠ '\r' → motive t → motive (c :: t)) (t : Text) : motive t := by
  fun_induction unifyNewlines t with
  | case1 => exact nil
  | case2 rest ih => exact crlf rest ih
  | case3 c rest hnot ih =>
      by_cases hc : c = '\r'
      · subst hc
        refine cr rest (fun hhead => ?_) ih
        obtain ⟨more, hmore⟩ := List.head?_eq_some_iff.1 hhead
        exact hnot more rfl hmore
      · exact plain c rest hc ih

theorem cr_notMem_unifyNewlines (t : Text) : '\r' ∉ unifyNewlines t := by
  induction t using unifyNewlines_induction with
  | nil => exact List.not_mem_nil
  | crlf t ih => simpa [unifyNewlines] using ih
  | cr t hhead ih => simpa [unifyNewlines_cr hhead] using ih
  | plain c t hc ih => simpa [unifyNewlines_cons hc, Ne.symm hc] using ih

/-- Exactly the texts without CR are left as they are. -/
theorem unifyNewlines_eq_self_iff : unifyNewlines t = t ↔ '\r' ∉ t :=
  ⟨fun h => h ▸ cr_notMem_unifyNewlines t, unifyNewlines_eq_self⟩

/-- Apart from line ends, the same code points are there. -/
theorem mem_unifyNewlines (hr : c ≠ '\r') (hn : c ≠ '\n') : c ∈ unifyNewlines t ↔ c ∈ t := by
  induction t using unifyNewlines_induction with
  | nil => rfl
  | crlf t ih => simp [unifyNewlines, hr, hn, ih]
  | cr t hhead ih => simp [unifyNewlines_cr hhead, hr, hn, ih]
  | plain d t hd ih => simp [unifyNewlines_cons hd, ih]

/-- A text can be cut anywhere but between a CR and an LF. -/
theorem unifyNewlines_append (h : s.getLast? ≠ some '\r' ∨ t.head? ≠ some '\n') :
    unifyNewlines (s ++ t) = unifyNewlines s ++ unifyNewlines t := by
  have hnext {c : Char} {s : Text} (h : (c :: s).getLast? ≠ some '\r' ∨ t.head? ≠ some '\n') :
      s.getLast? ≠ some '\r' ∨ t.head? ≠ some '\n' := h.imp_left getLast?_cons_ne
  induction s using unifyNewlines_induction with
  | nil => rfl
  | crlf s ih =>
      have ih := ih (hnext (hnext h))
      simp [unifyNewlines, ih]
  | cr s hhead ih =>
      have hhead' : (s ++ t).head? ≠ some '\n' := by
        cases s with
        | nil => exact h.resolve_left (by simp)
        | cons d s => exact hhead
      rw [List.cons_append, unifyNewlines_cr hhead', unifyNewlines_cr hhead, ih (hnext h),
        List.cons_append]
  | plain c s hc ih =>
      rw [List.cons_append, unifyNewlines_cons hc, unifyNewlines_cons hc, ih (hnext h),
        List.cons_append]

/-! ### Closings -/

/-- Nothing that does without a code point begins with it. -/
theorem prefix_cons_iff_of_notMem (h : c ∉ mark) : mark <+: c :: t ↔ mark = [] := by
  cases mark with
  | nil => simp
  | cons d mark =>
      rw [List.cons_prefix_cons]
      exact ⟨fun hd => absurd (by simp [hd.1]) h, nofun⟩

theorem prefix_unifyNewlines_iff (hr : '\r' ∉ mark) (hn : '\n' ∉ mark) :
    mark <+: unifyNewlines t ↔ mark <+: t := by
  induction t using unifyNewlines_induction generalizing mark with
  | nil => rfl
  | crlf t _ =>
      rw [unifyNewlines, prefix_cons_iff_of_notMem hn, prefix_cons_iff_of_notMem hr]
  | cr t hhead _ =>
      rw [unifyNewlines_cr hhead, prefix_cons_iff_of_notMem hn, prefix_cons_iff_of_notMem hr]
  | plain c t hc ih =>
      cases mark with
      | nil => simp
      | cons d mark =>
          rw [unifyNewlines_cons hc, List.cons_prefix_cons, List.cons_prefix_cons,
            ih (fun h => hr (List.mem_cons_of_mem _ h)) (fun h => hn (List.mem_cons_of_mem _ h))]

/-- Where a line end is read differently, nothing without line ends comes or goes. -/
theorem infix_unifyNewlines_iff (hr : '\r' ∉ mark) (hn : '\n' ∉ mark) :
    mark <:+: unifyNewlines t ↔ mark <:+: t := by
  have hprefix (t : Text) := prefix_unifyNewlines_iff (t := t) hr hn
  induction t using unifyNewlines_induction with
  | nil => rfl
  | crlf t ih =>
      have hcrlf := hprefix ('\r' :: '\n' :: t)
      have hlf := hprefix ('\n' :: t)
      rw [unifyNewlines_cons (by decide)] at hlf
      rw [unifyNewlines] at hcrlf ⊢
      rw [List.infix_cons_iff, List.infix_cons_iff, List.infix_cons_iff, ← hlf, hcrlf]
      tauto
  | cr t hhead ih =>
      have hcr := hprefix ('\r' :: t)
      rw [unifyNewlines_cr hhead] at hcr ⊢
      rw [List.infix_cons_iff, List.infix_cons_iff, hcr]
      exact or_congr_right ih
  | plain c t hc ih =>
      have hplain := hprefix (c :: t)
      rw [unifyNewlines_cons hc] at hplain ⊢
      rw [List.infix_cons_iff, List.infix_cons_iff, hplain]
      exact or_congr_right ih

/-- Markers are made of code points that unifying leaves alone. -/
theorem lineEnds_notMem_closingMark (n : Nat) :
    '\r' ∉ closingMark (marker n) ∧ '\n' ∉ closingMark (marker n) := by
  have hmarker {c : Char} (hc : isMarkerChar c = false) : c ∉ marker n := fun h => by
    rw [(isMarkerChar_of_mem_marker h).1] at hc
    cases hc
  have hr := hmarker (c := '\r') (by decide)
  have hn := hmarker (c := '\n') (by decide)
  simp [closingMark, hr, hn]

/-- The marker that is written is the first free one. -/
theorem freeMarker_eq (t : Text) : ∃ n, freeMarker t = marker n ∧
    occurs (closingMark (marker n)) t = false ∧
      ∀ k < n, occurs (closingMark (marker k)) t = true := by
  obtain ⟨n, hn, hfree⟩ := exists_free_marker t
  have hsome : ((List.range (t.length + 1)).find? fun n =>
      !occurs (closingMark (marker n)) t).isSome = true :=
    List.find?_isSome.2 ⟨n, List.mem_range.2 hn, by simp [hfree]⟩
  obtain ⟨first, hfirst⟩ := Option.isSome_iff_exists.1 hsome
  obtain ⟨hfree, -, hbefore⟩ := List.find?_range_eq_some.1 hfirst
  refine ⟨first, ?_, by simpa using hfree, fun k hk => by simpa using hbefore k hk⟩
  rw [freeMarker, List.find?_map, Function.comp_def, hfirst]
  rfl

/-- Texts in which the same closings occur are written under the same marker. -/
theorem freeMarker_congr
    (h : ∀ n, occurs (closingMark (marker n)) s = occurs (closingMark (marker n)) t) :
    freeMarker s = freeMarker t := by
  obtain ⟨n, hs, hfree, hbefore⟩ := freeMarker_eq s
  obtain ⟨k, ht, hfree', hbefore'⟩ := freeMarker_eq t
  have hkn : ¬ k < n := fun hlt => by
    rw [← h k, hbefore k hlt] at hfree'
    cases hfree'
  have hnk : ¬ n < k := fun hlt => by
    rw [h n, hbefore' n hlt] at hfree
    cases hfree
  rw [hs, ht, Nat.le_antisymm (Nat.not_lt.1 hkn) (Nat.not_lt.1 hnk)]

theorem freeMarker_unifyNewlines (t : Text) : freeMarker (unifyNewlines t) = freeMarker t := by
  refine freeMarker_congr fun n => ?_
  obtain ⟨hr, hn⟩ := lineEnds_notMem_closingMark n
  rw [Bool.eq_iff_iff, occurs_iff, occurs_iff, infix_unifyNewlines_iff hr hn]

/-! ### Quotes -/

theorem head?_escapeQuotes_eq_newline (h : (escapeQuotes t).head? = some '\n') :
    t.head? = some '\n' := by
  cases t with
  | nil => cases h
  | cons c t =>
      by_cases hc : c = '"'
      · subst hc
        cases h
      · rwa [escapeQuotes_cons hc] at h

theorem unifyNewlines_escapeQuotes (t : Text) :
    unifyNewlines (escapeQuotes t) = escapeQuotes (unifyNewlines t) := by
  have hcr (t : Text) : escapeQuotes ('\r' :: t) = '\r' :: escapeQuotes t := rfl
  have hlf (t : Text) : escapeQuotes ('\n' :: t) = '\n' :: escapeQuotes t := rfl
  induction t using unifyNewlines_induction with
  | nil => rfl
  | crlf t ih => rw [hcr, hlf, unifyNewlines, unifyNewlines, hlf, ih]
  | cr t hhead ih =>
      have hhead' : (escapeQuotes t).head? ≠ some '\n' :=
        fun h => hhead (head?_escapeQuotes_eq_newline h)
      rw [hcr, unifyNewlines_cr hhead', unifyNewlines_cr hhead, hlf, ih]
  | plain c t hc ih =>
      rw [unifyNewlines_cons hc]
      by_cases hq : c = '"'
      · subst hq
        rw [escapeQuotes_quote, escapeQuotes_quote, unifyNewlines_cons (by decide),
          unifyNewlines_cons (by decide), ih]
      · rw [escapeQuotes_cons hq, escapeQuotes_cons hq, unifyNewlines_cons hc, ih]

/-! ### Texts that are read as others -/

/-- Wherever `s` stands, `t` is read in its place. -/
def Unifies (s t : Text) : Prop := ∀ rest, unifyNewlines (s ++ rest) = t ++ unifyNewlines rest

theorem Unifies.unifyNewlines_eq (h : Unifies s t) : unifyNewlines s = t := by
  simpa using h []

theorem unifies_of_getLast? (h : s.getLast? ≠ some '\r') : Unifies s (unifyNewlines s) :=
  fun _ => unifyNewlines_append (.inl h)

/-- What has no CR is read as it stands. -/
theorem unifies_self (h : '\r' ∉ s) : Unifies s s := by
  have hlast : s.getLast? ≠ some '\r' := fun hlast => h (List.mem_of_getLast? hlast)
  simpa only [unifyNewlines_eq_self h] using unifies_of_getLast? hlast

theorem Unifies.append (h : Unifies s t) (h' : Unifies s' t') : Unifies (s ++ s') (t ++ t') := by
  intro rest
  rw [List.append_assoc, h, h', List.append_assoc]

theorem Unifies.joinWith (separator : Text) {parts parts' : List Text}
    (hseparator : '\r' ∉ separator) (h : List.Forall₂ Unifies parts parts') :
    Unifies (joinWith separator parts) (joinWith separator parts') := by
  induction h with
  | nil => exact unifies_self List.not_mem_nil
  | cons hpart hparts ih =>
      cases hparts with
      | nil => exact hpart
      | cons => exact (hpart.append (unifies_self hseparator)).append ih

/-- **The spelling of a string is read as the spelling of the string with unified line ends.** -/
theorem unifies_spelling (t : Text) : Unifies (spelling t) (spelling (unifyNewlines t)) := by
  have hslash := mem_unifyNewlines (c := '\\') (t := t) (by decide) (by decide)
  rw [spelling, spelling]
  by_cases h : '\\' ∈ t
  · -- the closing begins with a quote, so that no CR LF runs out of the string
    obtain ⟨n, hn, -⟩ := freeMarker_eq t
    obtain ⟨hr, -⟩ := lineEnds_notMem_closingMark n
    have hopening : '\r' ∉ '!' :: (freeMarker t ++ ['"']) := by
      rw [hn]
      simpa [closingMark] using hr
    rw [if_pos h, if_pos (hslash.2 h), freeMarker_unifyNewlines]
    have hbody : Unifies (t ++ closingMark (freeMarker t))
        (unifyNewlines t ++ closingMark (freeMarker t)) := by
      intro rest
      rw [List.append_assoc, unifyNewlines_append (.inr (by simp [closingMark])),
        unifies_self (hn ▸ hr) rest, List.append_assoc]
    simpa using (unifies_self hopening).append hbody
  · have hbody : Unifies (escapeQuotes t ++ ['"']) (escapeQuotes (unifyNewlines t) ++ ['"']) := by
      intro rest
      rw [List.append_assoc, unifyNewlines_append (.inr (by simp)), unifyNewlines_escapeQuotes,
        unifies_self (s := ['"']) (by decide) rest, List.append_assoc]
    rw [if_neg h, if_neg (mt hslash.1 h)]
    exact (unifies_self (s := ['"']) (by decide)).append hbody

end KeyMenu.Text
