import Mathlib.Data.List.Basic
import Mathlib.Data.List.TakeWhile
import Mathlib.Tactic.Lemma
import Mathlib.Tactic.SplitIfs
import ReviewStream.Clock.Calendar
import ReviewStream.Proofs.Text.Digits

/-!
# Times and days that are read again

A leap second that stands on another second than 59 has the same text as the second after it.

* `TimeOfDay.carried`: the time in which such a leap second is that second.
* `TimeOfDay.carried_eq_self_iff`: the times that a clock shows are left as they are.
* **`TimeOfDay.read?_toText`**: the text of every time is read as that time, also in a leap second,
  and with all of its fraction, but for what is carried.
* `Weekday.shape_shortName`: a day is read from its short name.
-/

namespace ReviewStream

namespace TimeOfDay

open Text (IsPadded)

variable {cs rest : List Char} {n limit nano : Nat} {t : TimeOfDay}

/-! ## Leap seconds -/

/-- The time whose text a time has: a leap second on top of another second than 59 is carried over
into the second after that one. -/
def carried (t : TimeOfDay) : TimeOfDay :=
  if nanosPerSecond ≤ t.nano ∧ t.second % 60 ≠ 59 then ⟨t.second + 1, t.nano - nanosPerSecond⟩
  else t

/-- What is carried is a time that a clock shows. -/
lemma InRange.isProper_carried (h : t.InRange) : t.carried.IsProper := by
  obtain ⟨hsecond, hnano⟩ := h
  rw [carried]
  split_ifs with hcarried
  · refine ⟨⟨?_, ?_⟩, fun hleap => ?_⟩
    · dsimp only
      omega
    · dsimp only
      omega
    · dsimp only at hleap
      omega
  · exact ⟨⟨hsecond, hnano⟩, fun hleap => not_not.mp fun hsixty => hcarried ⟨hleap, hsixty⟩⟩

/-- Nothing is carried in the times that a clock shows, and in no others. -/
lemma InRange.carried_eq_self_iff (h : t.InRange) : t.carried = t ↔ t.IsProper := by
  refine ⟨fun heq => heq ▸ h.isProper_carried, fun hproper => ?_⟩
  rw [carried, if_neg]
  rintro ⟨hleap, hsixty⟩
  exact hsixty (hproper.leap hleap)

/-! ## Parts of a time -/

/-- Two digits are read as the number that they stand for. -/
lemma readPair_of_padded (h : IsPadded 2 n cs) (rest : List Char) :
    readPair (cs ++ rest) = .ok (n, rest) := by
  obtain ⟨hlength, hdigit, rfl⟩ := h
  obtain ⟨c, d, rfl⟩ := List.length_eq_two.mp hlength
  simp only [List.mem_cons, List.not_mem_nil, or_false, forall_eq_or_imp, forall_eq] at hdigit
  have hstart : Text.trimStart (c :: d :: rest) = c :: d :: rest :=
    List.dropWhile_cons_of_neg (by simp [Text.isBlank_of_isDigit hdigit.1])
  rw [readPair, List.cons_append, List.singleton_append, hstart]
  simp only [Text.digitValue?_of_isDigit hdigit.1, Text.digitValue?_of_isDigit hdigit.2]
  simp only [Nat.ofDigitChars_cons, Nat.ofDigitChars_nil]
  rw [Nat.mul_comm 10, Nat.mul_zero, Nat.zero_add]

lemma readUpTo_of_padded (h : IsPadded 2 n cs) (hlimit : n ≤ limit) (rest : List Char) :
    readUpTo limit (cs ++ rest) = .ok (n, rest) := by
  rw [readUpTo, readPair_of_padded h]
  exact if_neg (Nat.not_lt.mpr hlimit)

lemma readColon_colon (rest : List Char) : readColon (':' :: rest) = .ok rest := rfl

lemma getD_digitValue? {c : Char} (h : c.isDigit) :
    (Text.digitValue? c).getD 0 = c.toNat - '0'.toNat := by
  rw [Text.digitValue?_of_isDigit h, Option.getD_some]

/-- Up to nine digits after a point are read as a fraction, the first of them being tenths. -/
lemma readFraction_of_padded {width : Nat} (h : IsPadded width n cs) (hpos : 0 < width)
    (hwidth : width ≤ 9) : readFraction ('.' :: cs) = .ok (n * 10 ^ (9 - width), []) := by
  obtain ⟨hlength, hdigit, rfl⟩ := h
  have hall : cs.takeWhile (Text.digitValue? · |>.isSome) = cs := by
    refine List.takeWhile_eq_self_iff.mpr fun c hc => ?_
    rw [Text.digitValue?_of_isDigit (hdigit c hc)]
    rfl
  have hne : cs.isEmpty = false := by
    rw [List.isEmpty_eq_false_iff, ← List.length_pos_iff]
    omega
  have hnine : (cs ++ List.replicate 9 '0').take 9 = cs ++ List.replicate (9 - width) '0' := by
    rw [List.take_append, List.take_of_length_le (by omega), List.take_replicate, hlength]
    congr 2
    omega
  have hzeros : ∀ c ∈ cs ++ List.replicate (9 - width) '0', c.isDigit := by
    intro c hc
    rcases List.mem_append.mp hc with hfront | hback
    · exact hdigit c hfront
    · rw [List.eq_of_mem_replicate hback]
      rfl
  simp only [readFraction, hall, hne, hnine, List.drop_length,
    Text.foldl_digits fun c hc => getD_digitValue? (hzeros c hc)]
  rw [Nat.ofDigitChars_append, Nat.ofDigitChars_replicate_zero, Nat.mul_comm]
  rfl

/-- Three digits are written where they suffice, and else six or nine. -/
lemma readFraction_fractionText (h : nano < nanosPerSecond) :
    readFraction (fractionText nano).toList = .ok (nano, []) := by
  rw [nanosPerSecond] at h
  rw [fractionText]
  split_ifs with hzero hmilli hmicro
  · rw [hzero]
    rfl
  · rw [String.toList_append]
    have hpadded : IsPadded 3 (nano / 1000000) _ := Text.isPadded_paddedText (by decide) (by omega)
    refine (readFraction_of_padded hpadded (by decide) (by decide)).trans ?_
    congr 2
    omega
  · rw [String.toList_append]
    have hpadded : IsPadded 6 (nano / 1000) _ := Text.isPadded_paddedText (by decide) (by omega)
    refine (readFraction_of_padded hpadded (by decide) (by decide)).trans ?_
    congr 2
    omega
  · rw [String.toList_append]
    have hpadded : IsPadded 9 nano _ := Text.isPadded_paddedText (by decide) (by omega)
    refine (readFraction_of_padded hpadded (by decide) (by decide)).trans ?_
    rw [Nat.sub_self, Nat.pow_zero, Nat.mul_one]

/-! ## Times -/

lemma readHourMinute_of_padded {hour minute : Nat} {hs ms : List Char} (hhour : IsPadded 2 hour hs)
    (hminute : IsPadded 2 minute ms) (hhourLe : hour ≤ 23) (hminuteLe : minute ≤ 59) :
    readHourMinute (hs ++ ':' :: (ms ++ rest)) = .ok ((hour, minute), rest) := by
  simp only [readHourMinute, readUpTo_of_padded hhour hhourLe, readColon_colon,
    readUpTo_of_padded hminute hminuteLe, bind, Except.bind]
  rfl

lemma readSeconds_of_padded {second : Nat} {ss fs : List Char} (hsecond : IsPadded 2 second ss)
    (hsecondLe : second ≤ 60) (hfraction : readFraction fs = .ok (nano, [])) :
    readSeconds (':' :: (ss ++ fs)) = .ok ((second, nano), []) := by
  simp only [readSeconds, readColon_colon, readUpTo_of_padded hsecond hsecondLe, hfraction, bind,
    Except.bind]
  rfl

lemma readChars?_of_parts {hour minute second : Nat}
    (hfront : readHourMinute cs = .ok ((hour, minute), rest))
    (hback : readSeconds rest = .ok ((second, nano), [])) :
    readChars? cs = .ok (ofParts hour minute second nano) := by
  simp only [readChars?, hfront, hback, bind, Except.bind]
  rfl

lemma ofParts_eq (h : t.InRange) :
    ofParts (t.second / 3600) (t.second / 60 % 60) (t.second % 60 + t.nano / nanosPerSecond)
      (t.nano % nanosPerSecond) = t.carried := by
  obtain ⟨hsecond, hnano⟩ := h
  rw [nanosPerSecond] at hnano
  rw [ofParts, carried, nanosPerSecond]
  split_ifs with hsixty hcarried hcarried
  · omega
  · have hs : (t.second / 3600 * 60 + t.second / 60 % 60) * 60 + 59 = t.second := by omega
    have hn : 1000000000 + t.nano % 1000000000 = t.nano := by omega
    rw [hs, hn]
  · have hs : (t.second / 3600 * 60 + t.second / 60 % 60) * 60
        + (t.second % 60 + t.nano / 1000000000) = t.second + 1 := by omega
    have hn : t.nano % 1000000000 = t.nano - 1000000000 := by omega
    rw [hs, hn]
  · have hs : (t.second / 3600 * 60 + t.second / 60 % 60) * 60
        + (t.second % 60 + t.nano / 1000000000) = t.second := by omega
    have hn : t.nano % 1000000000 = t.nano := by omega
    rw [hs, hn]

/-- **A time is read from its text**, but for what is carried. -/
theorem read?_toText (h : t.InRange) : read? t.toText = .ok t.carried := by
  have hparts := ofParts_eq h
  obtain ⟨hsecond, hnano⟩ := h
  rw [nanosPerSecond] at hnano
  have hhour : IsPadded 2 (t.second / 3600) _ := Text.isPadded_paddedText (by decide) (by omega)
  have hminute : IsPadded 2 (t.second / 60 % 60) _ :=
    Text.isPadded_paddedText (by decide) (by omega)
  have hsixty : t.second % 60 + t.nano / nanosPerSecond ≤ 60 := by
    rw [nanosPerSecond]
    omega
  have hseconds : IsPadded 2 (t.second % 60 + t.nano / nanosPerSecond) _ :=
    Text.isPadded_paddedText (by decide) (by omega)
  have hfraction := readFraction_fractionText (Nat.mod_lt t.nano (by decide))
  have htext : t.toText.toList = (Text.paddedText 2 (t.second / 3600)).toList ++ ':' ::
      ((Text.paddedText 2 (t.second / 60 % 60)).toList ++ ':' ::
        ((Text.paddedText 2 (t.second % 60 + t.nano / nanosPerSecond)).toList
          ++ (fractionText (t.nano % nanosPerSecond)).toList)) := by
    simp only [toText, String.toList_append, List.append_assoc]
    rfl
  have hread := readChars?_of_parts
    (readHourMinute_of_padded hhour hminute (by omega) (by omega))
    (readSeconds_of_padded hseconds hsixty hfraction)
  rw [read?, htext, hread, hparts]

/-- A time is read from its text as data. -/
lemma shape_toText (h : t.InRange) : shape (.text t.toText) = .ok t.carried := by
  rw [shape, read?_toText h]
  rfl

end TimeOfDay

/-! ## Days -/

lemma Weekday.shape_shortName (d : Weekday) : shape (.text d.shortName) = .ok d := by
  cases d <;> decide

end ReviewStream
