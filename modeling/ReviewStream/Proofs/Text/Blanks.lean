import Mathlib.Data.List.DropRight
import Mathlib.Tactic.Lemma
import ReviewStream.Text.Pieces

/-!
# Texts among blanks

Trimming drops the blanks around a text.  What is left neither begins nor ends with a blank, and
such a text is left whole, whatever blanks it has inside.

* `Text.IsTrimmed`: neither the first character nor the last one is a blank.
* `Text.trim_eq_iff`: trimming leaves the one trimmed text that stands there among blanks.
-/

namespace ReviewStream.Text

variable {cs front core back : List Char}

/-- A text that neither begins nor ends with a blank. -/
structure IsTrimmed (cs : List Char) : Prop where
  head : ∀ c ∈ cs.head?, isBlank c = false
  last : ∀ c ∈ cs.getLast?, isBlank c = false

lemma isTrimmed_of_forall (h : ∀ c ∈ cs, isBlank c = false) : IsTrimmed cs where
  head c hc := h c (List.mem_of_head? hc)
  last c hc := h c (List.mem_of_getLast? hc)

lemma trimStart_eq_self (h : ∀ c ∈ cs.head?, isBlank c = false) : trimStart cs = cs := by
  cases cs with
  | nil => rfl
  | cons c cs => simp [trimStart, h c rfl]

lemma trimEnd_eq_reverse (cs : List Char) : trimEnd cs = (trimStart cs.reverse).reverse := rfl

lemma trimEnd_eq_rdropWhile (cs : List Char) : trimEnd cs = cs.rdropWhile isBlank := rfl

lemma trimStart_append (hfront : ∀ c ∈ front, isBlank c) (cs : List Char) :
    trimStart (front ++ cs) = trimStart cs := List.dropWhile_append_of_pos hfront

lemma head?_trimStart (cs : List Char) : ∀ c ∈ (trimStart cs).head?, isBlank c = false := by
  intro c hc
  have hnot := List.head?_dropWhile_not isBlank cs
  rw [← trimStart, hc] at hnot
  exact hnot

/-- Whatever is trimmed neither begins nor ends with a blank. -/
lemma isTrimmed_trim (cs : List Char) : IsTrimmed (trim cs) where
  head c hc := by
    -- What is dropped at the end leaves the first character alone.
    obtain ⟨rest, hrest⟩ : trim cs <+: trimStart cs := List.rdropWhile_prefix isBlank _
    refine head?_trimStart cs c ?_
    rw [← hrest, List.head?_append, hc]
    rfl
  last c hc := by
    rw [trim, trimEnd_eq_reverse, List.getLast?_reverse] at hc
    exact head?_trimStart _ c hc

/-- Nothing but blanks is dropped. -/
lemma exists_blanks_of_trim (cs : List Char) :
    ∃ front back, cs = front ++ trim cs ++ back ∧ (∀ c ∈ front, isBlank c)
      ∧ ∀ c ∈ back, isBlank c := by
  have hfront : cs.takeWhile isBlank ++ trimStart cs = cs := List.takeWhile_append_dropWhile
  have hback : trim cs ++ (trimStart cs).rtakeWhile isBlank = trimStart cs := by
    rw [trim, trimEnd_eq_rdropWhile, List.rdropWhile, List.rtakeWhile, ← List.reverse_append,
      List.takeWhile_append_dropWhile, List.reverse_reverse]
  refine ⟨cs.takeWhile isBlank, (trimStart cs).rtakeWhile isBlank, ?_,
    fun c => List.mem_takeWhile_imp, fun c => List.mem_rtakeWhile_imp⟩
  rw [List.append_assoc, hback, hfront]

/-- Blanks around a trimmed text are dropped. -/
lemma trim_append (hfront : ∀ c ∈ front, isBlank c) (hcore : IsTrimmed core)
    (hback : ∀ c ∈ back, isBlank c) : trim (front ++ core ++ back) = core := by
  rw [trim, List.append_assoc, trimStart_append hfront]
  cases core with
  | nil =>
      have hnothing : trimStart back = [] := List.dropWhile_eq_nil_iff.mpr hback
      rw [List.nil_append, hnothing]
      rfl
  | cons c cs =>
      have hhead : ∀ d ∈ (c :: cs ++ back).head?, isBlank d = false := hcore.head
      have hlast : ∀ d ∈ (c :: cs).reverse.head?, isBlank d = false := by
        simpa only [List.head?_reverse] using hcore.last
      rw [trimStart_eq_self hhead, trimEnd_eq_reverse, List.reverse_append,
        trimStart_append (by simpa using hback), trimStart_eq_self hlast, List.reverse_reverse]

/-- **Trimming leaves the one trimmed text that stands there among blanks.** -/
lemma trim_eq_iff :
    trim cs = core ↔ IsTrimmed core ∧ ∃ front back, cs = front ++ core ++ back
      ∧ (∀ c ∈ front, isBlank c) ∧ ∀ c ∈ back, isBlank c := by
  constructor
  · rintro rfl
    exact ⟨isTrimmed_trim cs, exists_blanks_of_trim cs⟩
  · rintro ⟨hcore, front, back, rfl, hfront, hback⟩
    exact trim_append hfront hcore hback

/-- A carriage return at the end of a line is dropped with the other blanks. -/
lemma trim_dropReturn (cs : List Char) : trim (dropReturn cs) = trim cs := by
  rw [dropReturn]
  split_ifs with hreturn
  · obtain ⟨line, rfl⟩ := List.getLast?_eq_some_iff.mp hreturn
    obtain ⟨hcore, front, back, hline, hfront, hback⟩ := trim_eq_iff.mp (rfl : trim line = _)
    rw [List.dropLast_concat]
    refine (trim_eq_iff.mpr ⟨hcore, front, back ++ ['\r'], ?_, hfront, ?_⟩).symm
    · rw [← List.append_assoc, ← hline]
    · intro c hc
      rcases List.mem_append.mp hc with hmem | hmem
      · exact hback c hmem
      · rw [List.mem_singleton.mp hmem]
        rfl
  · rfl

end ReviewStream.Text
