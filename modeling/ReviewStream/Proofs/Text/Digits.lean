import Mathlib.Algebra.Group.Nat.Defs
import Mathlib.Tactic.Lemma
import ReviewStream.Text.Blank
import ReviewStream.Text.Integer

/-!
# Decimal digits

* `Text.foldl_digits`: reading digits one after the other is what the standard library does.
* `Text.head?_natDigits`: a number that is not zero has no zero in front.
* `Text.isPadded_paddedText`: a number that is filled up to a width has as many digits, and these
  stand for it.
-/

namespace ReviewStream.Text

variable {c : Char} {cs : List Char} {width n : Nat}

lemma digitValue?_of_isDigit (h : c.isDigit) : digitValue? c = some (c.toNat - '0'.toNat) := by
  rw [Char.isDigit, Bool.and_eq_true, decide_eq_true_eq, decide_eq_true_eq] at h
  exact if_pos h

lemma isBlank_of_isDigit (h : c.isDigit) : isBlank c = false := by
  have hrange : 48 ≤ c.toNat ∧ c.toNat ≤ 57 := by
    simpa [Char.isDigit, UInt32.le_iff_toNat_le, ← Char.toNat_val] using h
  simp only [isBlank, Bool.or_eq_false_iff, Bool.and_eq_false_iff, decide_eq_false_iff_not,
    beq_eq_false_iff_ne]
  omega

/-- Digits are read onto a value one after the other. -/
lemma foldl_digits {value : Char → Nat} (h : ∀ c ∈ cs, value c = c.toNat - '0'.toNat)
    (start : Nat) :
    cs.foldl (fun n c => n * 10 + value c) start = Nat.ofDigitChars 10 cs start := by
  induction cs generalizing start with
  | nil => rfl
  | cons c cs ih =>
      rw [List.foldl_cons, h c List.mem_cons_self, ih fun d hd => h d (List.mem_cons_of_mem _ hd),
        Nat.ofDigitChars_cons, Nat.mul_comm start]

/-! ## Digits of a number -/

lemma toList_natText (n : Nat) : (natText n).toList = natDigits n := String.toList_ofList

lemma isDigit_of_mem_natDigits (h : c ∈ natDigits n) : c.isDigit :=
  Nat.isDigit_of_mem_toDigits (by decide) (by decide) h

lemma ofDigitChars_natDigits (n : Nat) : Nat.ofDigitChars 10 (natDigits n) 0 = n :=
  Nat.ofDigitChars_toDigits (by decide) (by decide)

/-- A number that is not zero has no zero in front. -/
lemma head?_natDigits (h : 0 < n) : (natDigits n).head? ≠ some '0' := by
  induction n using Nat.strongRecOn with
  | ind n ih =>
      rw [natDigits, Nat.toDigits_eq_if (by decide)]
      by_cases hten : n < 10
      · have hone : ∀ m < 10, 0 < m → [m.digitChar].head? ≠ some '0' := by decide
        rw [if_pos hten]
        exact hone n hten h
      · have hfront := ih (n / 10) (by omega) (by omega)
        rw [if_neg hten]
        cases hdigits : Nat.toDigits 10 (n / 10) with
        | nil => exact absurd hdigits Nat.toDigits_ne_nil
        | cons d ds =>
            rw [natDigits, hdigits] at hfront
            exact hfront

/-- What a number that is filled up to a width looks like. -/
structure IsPadded (width n : Nat) (cs : List Char) : Prop where
  length : cs.length = width
  isDigit : ∀ c ∈ cs, c.isDigit
  value : Nat.ofDigitChars 10 cs 0 = n

/-- A number that fits into a width is filled up to that width. -/
lemma isPadded_paddedText (hwidth : 0 < width) (hn : n < 10 ^ width) :
    IsPadded width n (paddedText width n).toList := by
  have hlength : (natDigits n).length ≤ width :=
    (Nat.length_toDigits_le_iff (by decide) hwidth).mpr hn
  rw [paddedText, String.toList_ofList]
  refine ⟨?_, fun c hc => ?_, ?_⟩
  · rw [List.length_append, List.length_replicate]
    omega
  · rcases List.mem_append.mp hc with hzero | hdigit
    · rw [List.eq_of_mem_replicate hzero]
      rfl
    · exact isDigit_of_mem_natDigits hdigit
  · rw [Nat.ofDigitChars_append, Nat.ofDigitChars_replicate_zero, Nat.mul_zero]
    exact ofDigitChars_natDigits n

end ReviewStream.Text
