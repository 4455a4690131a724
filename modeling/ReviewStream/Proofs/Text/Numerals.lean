import ReviewStream.Proofs.Text.Blanks
import ReviewStream.Proofs.Text.Digits

/-!
# Numerals among blanks

A numeral is an optional plus sign and one or more digits; zeros in front are allowed.  It may stand
among blanks.

* `Text.IsNumeral`: what a numeral looks like, and the number that it stands for.
* `Text.readUnsigned_eq_ok_iff`: a numeral is read as its number unless that is beyond the limit.
  Nothing else is read.
* `Text.isNumeral_trim_iff`: a numeral is left when blanks are dropped exactly if it stands among
  blanks.
* `Text.intText_eq_toString`: an integer in decimal is what the standard library prints.
-/

namespace ReviewStream.Text

variable {c : Char} {cs digits front core back : List Char} {limit n m : Nat}
  {beyond : IntegerFault}

/-! ## Digits -/

lemma digitValue?_of_not_isDigit (h : ¬ c.isDigit) : digitValue? c = none := by
  rw [Char.isDigit, Bool.and_eq_true, decide_eq_true_eq, decide_eq_true_eq] at h
  exact if_neg h

/-- Reading on can only make a number greater. -/
lemma le_ofDigitChars (n : Nat) (cs : List Char) : n ≤ Nat.ofDigitChars 10 cs n := by
  induction cs generalizing n with
  | nil => exact Nat.le_refl n
  | cons c cs ih =>
      rw [Nat.ofDigitChars_cons]
      have hstep := ih (10 * n + (c.toNat - '0'.toNat))
      omega

/-- Digits are read as their number unless it is beyond the limit, and nothing else is read. -/
lemma readDigits_eq_ok_iff (hn : n ≤ limit) :
    readDigits limit beyond n cs = .ok m
      ↔ (∀ c ∈ cs, c.isDigit) ∧ Nat.ofDigitChars 10 cs n = m ∧ m ≤ limit := by
  induction cs generalizing n with
  | nil =>
      rw [readDigits, Except.ok.injEq, Nat.ofDigitChars_nil]
      constructor
      · rintro rfl
        exact ⟨nofun, rfl, hn⟩
      · exact fun h => h.2.1
  | cons c cs ih =>
      rw [readDigits, List.forall_mem_cons, Nat.ofDigitChars_cons]
      by_cases hc : c.isDigit
      · simp only [digitValue?_of_isDigit hc, hc, true_and, Nat.mul_comm n]
        split_ifs with hlimit
        · -- What follows cannot bring the number back below the limit.
          refine iff_of_false nofun fun ⟨_, hvalue, hm⟩ => ?_
          have hle := le_ofDigitChars (10 * n + (c.toNat - '0'.toNat)) cs
          omega
        · exact ih (by omega)
      · simp only [digitValue?_of_not_isDigit hc, hc]
        exact iff_of_false nofun fun h => absurd h.1.1 nofun

/-! ## Numerals -/

/-- A numeral of a number: an optional plus sign and at least one digit. -/
structure IsNumeral (n : Nat) (cs : List Char) : Prop where
  exists_digits : ∃ digits, (cs = digits ∨ cs = '+' :: digits) ∧ digits ≠ []
    ∧ (∀ c ∈ digits, c.isDigit) ∧ Nat.ofDigitChars 10 digits 0 = n

lemma readMagnitude_eq_ok_iff :
    readMagnitude limit beyond digits = .ok n
      ↔ digits ≠ [] ∧ (∀ c ∈ digits, c.isDigit) ∧ Nat.ofDigitChars 10 digits 0 = n
        ∧ n ≤ limit := by
  cases digits with
  | nil => exact iff_of_false nofun fun h => h.1 rfl
  | cons c cs =>
      rw [readMagnitude, readDigits_eq_ok_iff (Nat.zero_le limit)]
      · exact (and_iff_right (List.cons_ne_nil c cs)).symm
      · exact List.cons_ne_nil c cs

/-- **A numeral is read as its number unless that is beyond the limit.**  Nothing else is read. -/
theorem readUnsigned_eq_ok_iff :
    readUnsigned limit cs = .ok n ↔ IsNumeral n cs ∧ n ≤ limit := by
  have hplus : ¬ '+'.isDigit := by decide
  unfold readUnsigned
  split
  · refine iff_of_false nofun ?_
    rintro ⟨⟨digits, rfl | hcons, hne, -⟩, -⟩
    · exact hne rfl
    · cases hcons
  next cs =>
    rw [readMagnitude_eq_ok_iff]
    constructor
    · rintro ⟨hne, hdigits, hvalue, hle⟩
      exact ⟨⟨cs, .inr rfl, hne, hdigits, hvalue⟩, hle⟩
    · rintro ⟨⟨digits, rfl | hcons, hne, hdigits, hvalue⟩, hle⟩
      · exact absurd (hdigits '+' List.mem_cons_self) hplus
      · cases hcons
        exact ⟨hne, hdigits, hvalue, hle⟩
  next hne hsign =>
    rw [readMagnitude_eq_ok_iff]
    constructor
    · rintro ⟨hne, hdigits, hvalue, hle⟩
      exact ⟨⟨cs, .inl rfl, hne, hdigits, hvalue⟩, hle⟩
    · rintro ⟨⟨digits, rfl | hcons, hne, hdigits, hvalue⟩, hle⟩
      · exact ⟨hne, hdigits, hvalue, hle⟩
      · exact absurd hcons (hsign digits)

lemma IsNumeral.isBlank_eq_false (h : IsNumeral n cs) (hc : c ∈ cs) : isBlank c = false := by
  obtain ⟨digits, hcs, -, hdigits, -⟩ := h.exists_digits
  rcases hcs with rfl | rfl
  · exact isBlank_of_isDigit (hdigits c hc)
  · rcases List.mem_cons.mp hc with rfl | hmem
    · rfl
    · exact isBlank_of_isDigit (hdigits c hmem)

/-! ## Blanks at both ends -/

/-- A numeral is left of a text exactly if it stands there among blanks. -/
lemma isNumeral_trim_iff :
    IsNumeral n (trim cs)
      ↔ ∃ front core back, cs = front ++ core ++ back ∧ (∀ c ∈ front, isBlank c)
        ∧ (∀ c ∈ back, isBlank c) ∧ IsNumeral n core := by
  constructor
  · intro h
    obtain ⟨front, back, hcs, hfront, hback⟩ := exists_blanks_of_trim cs
    exact ⟨front, trim cs, back, hcs, hfront, hback, h⟩
  · rintro ⟨front, core, back, rfl, hfront, hback, hcore⟩
    rw [trim_append hfront (isTrimmed_of_forall fun c hc => hcore.isBlank_eq_false hc) hback]
    exact hcore

/-! ## Integers -/

/-- An integer in decimal is what the standard library prints. -/
lemma intText_eq_toString (i : Int) : intText i = toString i := by
  cases i with
  | ofNat n => rfl
  | negSucc n =>
      rw [intText, natDigits, String.ofList_cons]
      rfl

end ReviewStream.Text
