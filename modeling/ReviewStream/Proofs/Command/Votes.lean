import ReviewStream.Proofs.Command.Splitting

/-!
# Votes in writing

A vote is given as a label, an equals sign and a value.  The value may have any number of plus signs
in front, then a minus sign, and then digits.  A review writes it with exactly one sign.

* `Vote.Spelling`: a text that stands for a vote if the value is in range.
* `Vote.read?_text`: what a spelling is read as.
* `Vote.exists_spelling_of_read?`: nothing else is read.
* **`Vote.read?_inverts`**: votes are read as they are written, and written as they were read.
-/

namespace ReviewStream

open Text (readSigned readMagnitude)

namespace Vote

/-- A label without equals sign, and behind the first equals sign any number of plus signs, at most
one minus sign, and at least one digit. -/
structure Spelling where
  label : String
  pluses : Nat
  minus : Bool
  digits : List Char
  equals_notMem : '=' ∉ label.toList
  digits_ne_nil : digits ≠ []
  isDigit : ∀ c ∈ digits, c.isDigit

namespace Spelling

/-- The value without the plus signs in front. -/
def core (s : Spelling) : List Char := if s.minus then '-' :: s.digits else s.digits

/-- The whole text. -/
def text (s : Spelling) : String :=
  String.ofList (s.label.toList ++ '=' :: (List.replicate s.pluses '+' ++ s.core))

/-- The number that the digits stand for, with its sign. -/
def value (s : Spelling) : Int :=
  if s.minus then -(Nat.ofDigitChars 10 s.digits 0 : Int) else Nat.ofDigitChars 10 s.digits 0

end Spelling

variable {text : String} {v : Vote} {limit : Nat} {i : Int} {cs : List Char}

/-! ## Values -/

lemma ne_sign_of_isDigit {c : Char} (h : c.isDigit) : c ≠ '+' ∧ c ≠ '-' := by
  constructor
  · rintro rfl
    cases h
  · rintro rfl
    cases h

/-- Behind the plus signs no further one follows. -/
lemma Spelling.dropWhile_pluses (s : Spelling) :
    (List.replicate s.pluses '+' ++ s.core).dropWhile (· == '+') = s.core := by
  have hpluses : ∀ c ∈ List.replicate s.pluses '+', (c == '+') = true := by
    intro c hc
    simp [List.eq_of_mem_replicate hc]
  rw [List.dropWhile_append_of_pos hpluses, core]
  split_ifs with hminus
  · rfl
  · obtain ⟨c, rest, hdigits⟩ := List.exists_cons_of_ne_nil s.digits_ne_nil
    have hc := s.isDigit c (by simp [hdigits])
    rw [hdigits, List.dropWhile_cons_of_neg (by simp [(ne_sign_of_isDigit hc).1])]

lemma readSigned_of_isDigit (hne : cs ≠ []) (hcs : ∀ c ∈ cs, c.isDigit) :
    readSigned limit cs = (readMagnitude limit .tooLarge cs).map Int.ofNat := by
  obtain ⟨c, rest, rfl⟩ := List.exists_cons_of_ne_nil hne
  obtain ⟨hplus, hminus⟩ := ne_sign_of_isDigit (hcs c List.mem_cons_self)
  unfold readSigned
  split
  · contradiction
  · simp_all
  · simp_all
  · rfl

/-- A value is read as its number unless that is out of range. -/
lemma Spelling.readSigned_core (s : Spelling) :
    readSigned limit s.core = .ok i ↔ s.value = i ∧ -(limit + 1 : Int) ≤ i ∧ i ≤ limit := by
  have hread {n : Nat} {beyond : Text.IntegerFault} :
      readMagnitude n beyond s.digits = .ok (Nat.ofDigitChars 10 s.digits 0)
        ↔ Nat.ofDigitChars 10 s.digits 0 ≤ n := by
    rw [Text.readMagnitude_eq_ok_iff]
    exact ⟨fun h => h.2.2.2, fun h => ⟨s.digits_ne_nil, s.isDigit, rfl, h⟩⟩
  rw [core, value]
  split_ifs with hminus
  · rw [readSigned]
    constructor
    · intro h
      obtain ⟨j, hj, rfl⟩ := exists_of_map_eq_ok h
      obtain ⟨n, hn, hresult⟩ := exists_of_bind_eq_ok hj
      cases hresult
      obtain ⟨-, -, rfl, hle⟩ := Text.readMagnitude_eq_ok_iff.mp hn
      omega
    · rintro ⟨rfl, hlow, -⟩
      rw [hread.mpr (by omega)]
      rfl
  · rw [readSigned_of_isDigit s.digits_ne_nil s.isDigit]
    constructor
    · intro h
      obtain ⟨n, hn, rfl⟩ := exists_of_map_eq_ok h
      obtain ⟨-, -, rfl, hle⟩ := Text.readMagnitude_eq_ok_iff.mp hn
      refine ⟨rfl, ?_, Int.ofNat_le.mpr hle⟩
      rw [Int.ofNat_eq_natCast]
      omega
    · rintro ⟨rfl, -, hhigh⟩
      rw [hread.mpr (by omega)]
      rfl

/-- A value that is read has the form of a value behind the plus signs. -/
lemma exists_core_of_readSigned (hplus : cs.head? ≠ some '+')
    (h : readSigned limit cs = .ok i) :
    ∃ (minus : Bool) (digits : List Char), cs = (if minus then '-' :: digits else digits)
      ∧ digits ≠ [] ∧ ∀ c ∈ digits, c.isDigit := by
  unfold readSigned at h
  split at h
  · cases h
  · exact absurd rfl hplus
  next digits =>
    obtain ⟨j, hj, -⟩ := exists_of_map_eq_ok h
    obtain ⟨n, hn, -⟩ := exists_of_bind_eq_ok hj
    obtain ⟨hne, hdigits, -⟩ := Text.readMagnitude_eq_ok_iff.mp hn
    exact ⟨true, digits, rfl, hne, hdigits⟩
  · obtain ⟨n, hn, -⟩ := exists_of_map_eq_ok h
    obtain ⟨hne, hdigits, -⟩ := Text.readMagnitude_eq_ok_iff.mp hn
    exact ⟨false, cs, rfl, hne, hdigits⟩

/-! ## Votes -/

/-- A value of a vote is in range. -/
lemma value_in_range (v : Vote) :
    -2147483648 ≤ v.value.toInt ∧ v.value.toInt ≤ 2147483647 := by
  have hlow := v.value.le_toInt
  have hhigh := v.value.toInt_lt
  omega

lemma read?_append_equals {label : List Char} (h : '=' ∉ label) (value : List Char)
    (htext : text.toList = label ++ '=' :: value) :
    read? text = match readSigned 2147483647 (value.dropWhile (· == '+')) with
      | .ok i => .ok ⟨String.ofList label, Int32.ofInt i⟩
      | .error fault => .error (.badValue text fault) := by
  rw [read?, htext, Text.cutAt_append_sep h]
  rfl

/-- **A spelling is read as its label and its value** unless the value is out of range. -/
lemma Spelling.read?_text (s : Spelling) :
    read? s.text = .ok v ↔ s.label = v.label ∧ s.value = v.value.toInt := by
  have htext : s.text.toList = s.label.toList ++ '=' :: (List.replicate s.pluses '+' ++ s.core) :=
    String.toList_ofList
  rw [read?_append_equals s.equals_notMem _ htext, s.dropWhile_pluses]
  constructor
  · intro h
    cases hvalue : readSigned 2147483647 s.core with
    | error fault =>
        rw [hvalue] at h
        cases h
    | ok i =>
        rw [hvalue] at h
        cases h
        obtain ⟨rfl, hlow, hhigh⟩ := s.readSigned_core.mp hvalue
        exact ⟨String.ofList_toList.symm, (Int32.toInt_ofInt_of_le (by omega) (by omega)).symm⟩
  · rintro ⟨hlabel, hvalue⟩
    obtain ⟨hlow, hhigh⟩ := v.value_in_range
    have hread : readSigned 2147483647 s.core = .ok v.value.toInt :=
      s.readSigned_core.mpr ⟨hvalue, by omega, by omega⟩
    rw [hread, hlabel]
    simp

/-- Nothing but a spelling is read. -/
lemma exists_spelling_of_read? (h : read? text = .ok v) : ∃ s : Spelling, s.text = text := by
  cases hcut : Text.cutAt '=' text.toList with
  | none =>
      rw [read?, hcut] at h
      cases h
  | some parts =>
      obtain ⟨label, value⟩ := parts
      obtain ⟨htext, hlabel⟩ := Text.eq_append_of_cutAt hcut
      rw [read?_append_equals hlabel _ htext] at h
      cases hvalue : readSigned 2147483647 (value.dropWhile (· == '+')) with
      | error fault =>
          rw [hvalue] at h
          cases h
      | ok i =>
          have hplus : (value.dropWhile (· == '+')).head? ≠ some '+' := by
            intro hhead
            have hnot := List.head?_dropWhile_not (· == '+') value
            rw [hhead] at hnot
            cases hnot
          have hpluses : value.takeWhile (· == '+')
              = List.replicate (value.takeWhile (· == '+')).length '+' := by
            refine List.eq_replicate_of_mem fun c hc => ?_
            simpa using List.mem_takeWhile_imp hc
          obtain ⟨minus, digits, hcore, hne, hdigits⟩ := exists_core_of_readSigned hplus hvalue
          refine ⟨⟨String.ofList label, (value.takeWhile (· == '+')).length, minus, digits,
            by rwa [String.toList_ofList], hne, hdigits⟩, String.toList_inj.mp ?_⟩
          simp only [Spelling.text, Spelling.core, String.toList_ofList]
          rw [← hpluses, ← hcore, List.takeWhile_append_dropWhile, htext]

lemma read?_eq_ok_iff :
    read? text = .ok v
      ↔ ∃ s : Spelling, s.text = text ∧ s.label = v.label ∧ s.value = v.value.toInt := by
  constructor
  · intro h
    obtain ⟨s, rfl⟩ := exists_spelling_of_read? h
    exact ⟨s, rfl, s.read?_text.mp h⟩
  · rintro ⟨s, rfl, hvote⟩
    exact s.read?_text.mpr hvote

/-- A text is read exactly if it is a spelling whose value is in range. -/
lemma exists_read?_iff :
    (∃ v, read? text = .ok v)
      ↔ ∃ s : Spelling, s.text = text ∧ -2147483648 ≤ s.value ∧ s.value ≤ 2147483647 := by
  constructor
  · rintro ⟨v, h⟩
    obtain ⟨s, htext, -, hvalue⟩ := read?_eq_ok_iff.mp h
    exact ⟨s, htext, hvalue ▸ v.value_in_range⟩
  · rintro ⟨s, rfl, hlow, hhigh⟩
    refine ⟨⟨s.label, Int32.ofInt s.value⟩, s.read?_text.mpr ⟨rfl, ?_⟩⟩
    exact (Int32.toInt_ofInt_of_le (by omega) (by omega)).symm

/-! ## Votes as a review writes them -/

/-- A vote with exactly one sign. -/
def Spelling.ofVote (v : Vote) (h : '=' ∉ v.label.toList) : Spelling where
  label := v.label
  pluses := if v.value.toInt < 0 then 0 else 1
  minus := v.value.toInt < 0
  digits := Text.natDigits v.value.toInt.natAbs
  equals_notMem := h
  digits_ne_nil := Nat.toDigits_ne_nil
  isDigit _ hc := Text.isDigit_of_mem_natDigits hc

lemma Spelling.text_ofVote (h : '=' ∉ v.label.toList) : (ofVote v h).text = v.argument := by
  refine String.toList_inj.mp ?_
  rw [text, core, ofVote, argument, String.toList_ofList]
  by_cases hneg : v.value.toInt < 0
  · simp [hneg, Text.natDigits]
  · simp [hneg, Text.natDigits]

lemma Spelling.value_ofVote (h : '=' ∉ v.label.toList) : (ofVote v h).value = v.value.toInt := by
  rw [value, ofVote, Text.ofDigitChars_natDigits]
  by_cases hneg : v.value.toInt < 0
  · rw [if_pos (by simpa using hneg)]
    omega
  · rw [if_neg (by simpa using hneg)]
    omega

/-- What a review writes for a vote is read as that vote. -/
lemma read?_argument (h : '=' ∉ v.label.toList) : read? v.argument = .ok v := by
  rw [← Spelling.text_ofVote h]
  exact (Spelling.read?_text _).mpr ⟨rfl, Spelling.value_ofVote h⟩

lemma read?_toText_of_read? (h : read? text = .ok v) : read? v.toText = .ok v := by
  obtain ⟨s, -, hlabel, -⟩ := read?_eq_ok_iff.mp h
  rw [toText_eq_argument]
  exact read?_argument (hlabel ▸ s.equals_notMem)

/-- **Votes are read as they are written, and written as they were read.**  A label without equals
sign and a value with an explicit sign are read as that vote.  What is read is a spelling, and any
spelling is read whose value fits into 32 bits.  A vote that was read is written by a review such
that it is read as the same vote again. -/
theorem read?_inverts :
    (∀ v : Vote, '=' ∉ v.label.toList → read? v.argument = .ok v)
      ∧ (∀ text v, read? text = .ok v
        ↔ ∃ s : Spelling, s.text = text ∧ s.label = v.label ∧ s.value = v.value.toInt)
      ∧ (∀ text, (∃ v, read? text = .ok v)
        ↔ ∃ s : Spelling, s.text = text ∧ -2147483648 ≤ s.value ∧ s.value ≤ 2147483647)
      ∧ ∀ text v, read? text = .ok v → read? v.toText = .ok v :=
  ⟨fun _ => read?_argument, fun _ _ => read?_eq_ok_iff, fun _ => exists_read?_iff,
    fun _ _ => read?_toText_of_read?⟩

/-- The least value, with signs and a zero that a review does not write. -/
theorem read?_inverts_of_least_value :
    let v : Vote := ⟨"Code-Review", -2147483648⟩
    ('=' ∉ v.label.toList ∧ read? "Code-Review=++-02147483648" = .ok v)
      ∧ read? "Code-Review=-2147483648" = .ok v
      ∧ read? v.toText = .ok v := by
  intro v
  have hlabel : '=' ∉ v.label.toList := by decide
  have hread : read? "Code-Review=++-02147483648" = .ok v := by rfl
  have hwritten : v.argument = "Code-Review=-2147483648" := by decide
  obtain ⟨hargument, -, -, hagain⟩ := read?_inverts
  exact ⟨⟨hlabel, hread⟩, hwritten ▸ hargument v hlabel, hagain _ v hread⟩

end Vote

end ReviewStream
