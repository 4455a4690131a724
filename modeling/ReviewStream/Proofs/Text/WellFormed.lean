import Mathlib.Logic.Function.Defs
import Mathlib.Tactic.ByContra
import ReviewStream.Proofs.Text.Utf8

/-!
# Octets that are well-formed

Octets are read without a fault only if they are the octets of a text.  A character is taken from
the front as long as there is one, and what is left is again read without a fault.

* `Text.Utf8.exists_of_unitsFrom_idle`: octets that are read without a fault begin with a character.
* **`Text.decode?_eq_some_iff`**: octets are read as a text exactly when they are its octets.
* `Text.encode_injective`: different texts have different octets.
-/

namespace ReviewStream.Text

namespace Utf8

variable {need bits n v : Nat} {low high : Octet} {bs : List Octet} {cs : List Char}

/-! ## Octets of a character by its number -/

lemma toNat_ofNat (h : v.isValidChar) : (Char.ofNat v).toNat = v := by
  rw [Char.ofNat, dif_pos h]
  rfl

lemma encodeChar_one (h : v < 0x80) : String.utf8EncodeChar (Char.ofNat v) = [UInt8.ofNat v] := by
  rw [encodeChar_eq, toNat_ofNat (.inl (by omega)), if_pos (by omega)]

lemma encodeChar_two (hlow : 0x80 ≤ v) (hhigh : v < 0x800) :
    String.utf8EncodeChar (Char.ofNat v) =
      [UInt8.ofNat (v / 64 % 32 + 192), UInt8.ofNat (v % 64 + 128)] := by
  rw [encodeChar_eq, toNat_ofNat (.inl (by omega)), if_neg (by omega), if_pos (by omega)]

lemma encodeChar_three (hlow : 0x800 ≤ v) (hhigh : v < 0x10000) (hvalid : v.isValidChar) :
    String.utf8EncodeChar (Char.ofNat v) =
      [UInt8.ofNat (v / 4096 % 16 + 224), UInt8.ofNat (v / 64 % 64 + 128),
        UInt8.ofNat (v % 64 + 128)] := by
  rw [encodeChar_eq, toNat_ofNat hvalid, if_neg (by omega), if_neg (by omega), if_pos (by omega)]

lemma encodeChar_four (hlow : 0x10000 ≤ v) (hvalid : v.isValidChar) :
    String.utf8EncodeChar (Char.ofNat v) =
      [UInt8.ofNat (v / 262144 % 8 + 240), UInt8.ofNat (v / 4096 % 64 + 128),
        UInt8.ofNat (v / 64 % 64 + 128), UInt8.ofNat (v % 64 + 128)] := by
  rw [encodeChar_eq, toNat_ofNat hvalid, if_neg (by omega), if_neg (by omega), if_neg (by omega)]

/-! ## Inside a character -/

/-- Where there is no fault, the next octet is one that is expected. -/
lemma exists_expected (h : unitsFrom (.inside need bits low high) bs = cs.map some) :
    ∃ n rest, bs = UInt8.ofNat n :: rest ∧ low.toNat ≤ n ∧ n ≤ high.toNat := by
  cases bs with
  | nil => cases cs <;> simp [unitsFrom] at h
  | cons b rest =>
      by_cases hexpected : low ≤ b ∧ b ≤ high
      · rw [UInt8.le_iff_toNat_le, UInt8.le_iff_toNat_le] at hexpected
        exact ⟨b.toNat, rest, by rw [UInt8.ofNat_toNat], hexpected⟩
      · have hstep : step (.inside need bits low high) b = (none :: (start b).1, (start b).2) := by
          rw [step, if_neg (by simpa using hexpected)]
        rw [unitsFrom_cons, hstep] at h
        cases cs <;> simp at h

/-- The last octet of a character. -/
lemma exists_of_inside_one (h : unitsFrom (.inside 1 bits low high) bs = cs.map some) :
    ∃ n rest cs', bs = UInt8.ofNat n :: rest ∧ low.toNat ≤ n ∧ n ≤ high.toNat ∧
      cs = Char.ofNat (bits * 64 + (n - 0x80)) :: cs' ∧
      unitsFrom .idle rest = cs'.map some := by
  obtain ⟨n, rest, rfl, hlow, hhigh⟩ := exists_expected h
  rw [unitsFrom_inside_one hlow hhigh rfl] at h
  cases cs with
  | nil => cases h
  | cons c cs =>
      rw [List.map_cons, List.cons.injEq, Option.some.injEq] at h
      exact ⟨n, rest, cs, rfl, hlow, hhigh, by rw [h.1], h.2⟩

/-- An octet that is not the last one of a character. -/
lemma exists_of_inside_more (h : unitsFrom (.inside (need + 2) bits low high) bs = cs.map some) :
    ∃ n rest, bs = UInt8.ofNat n :: rest ∧ low.toNat ≤ n ∧ n ≤ high.toNat ∧
      unitsFrom (.inside (need + 1) (bits * 64 + (n - 0x80)) 0x80 0xBF) rest = cs.map some := by
  obtain ⟨n, rest, rfl, hlow, hhigh⟩ := exists_expected h
  rw [unitsFrom_inside_more hlow hhigh rfl] at h
  exact ⟨n, rest, rfl, hlow, hhigh, h⟩

/-! ## Characters from the front -/

/-- Octets begin with a character, and what is left is read without a fault. -/
def BeginsWithChar (bs : List Octet) (cs : List Char) : Prop :=
  ∃ c cs' rest, cs = c :: cs' ∧ bs = String.utf8EncodeChar c ++ rest ∧
    unitsFrom .idle rest = cs'.map some

/-- A character of two octets. -/
lemma begins_of_inside_one (hlead : 0xC2 ≤ n) (hlead' : n < 0xE0)
    (h : unitsFrom (.inside 1 (n - 0xC0) 0x80 0xBF) bs = cs.map some) :
    BeginsWithChar (UInt8.ofNat n :: bs) cs := by
  obtain ⟨m, rest, cs', rfl, hlow, hhigh, rfl, hrest⟩ := exists_of_inside_one h
  simp only [UInt8.reduceToNat] at hlow hhigh
  refine ⟨_, cs', rest, rfl, ?_, hrest⟩
  generalize hv : (n - 0xC0) * 64 + (m - 0x80) = v
  have hn : v / 64 % 32 + 192 = n := by omega
  have hm : v % 64 + 128 = m := by omega
  rw [encodeChar_two (by omega) (by omega), hn, hm]
  rfl

/-- A character of three octets: the range of the second one keeps out what is too short for three
octets and the surrogates. -/
lemma begins_of_inside_two (hlead : 0xE0 ≤ n) (hlead' : n < 0xF0)
    (hlow : 0x80 ≤ low.toNat) (hhigh : high.toNat ≤ 0xBF) (hshort : n = 0xE0 → 0xA0 ≤ low.toNat)
    (hsurrogate : n = 0xED → high.toNat ≤ 0x9F)
    (h : unitsFrom (.inside 2 (n - 0xE0) low high) bs = cs.map some) :
    BeginsWithChar (UInt8.ofNat n :: bs) cs := by
  obtain ⟨m, bs, rfl, hm, hm', h⟩ := exists_of_inside_more h
  obtain ⟨k, rest, cs', rfl, hk, hk', rfl, hrest⟩ := exists_of_inside_one h
  simp only [UInt8.reduceToNat] at hk hk'
  refine ⟨_, cs', rest, rfl, ?_, hrest⟩
  generalize hv : ((n - 0xE0) * 64 + (m - 0x80)) * 64 + (k - 0x80) = v
  have hvalid : v.isValidChar := by
    by_cases hn : n < 0xED
    · exact .inl (by omega)
    · by_cases hn' : n = 0xED
      · exact .inl (by omega)
      · exact .inr ⟨by omega, by omega⟩
  have hn : v / 4096 % 16 + 224 = n := by omega
  have hm : v / 64 % 64 + 128 = m := by omega
  have hk : v % 64 + 128 = k := by omega
  have hleast : 0x800 ≤ v := by
    by_cases hn : n = 0xE0
    · have := hshort hn
      omega
    · omega
  rw [encodeChar_three hleast (by omega) hvalid, hn, hm, hk]
  rfl

/-- A character of four octets: the range of the second one keeps out what is too short for four
octets and what is beyond the last character. -/
lemma begins_of_inside_three (hlead : 0xF0 ≤ n) (hlead' : n ≤ 0xF4)
    (hlow : 0x80 ≤ low.toNat) (hhigh : high.toNat ≤ 0xBF) (hshort : n = 0xF0 → 0x90 ≤ low.toNat)
    (hbeyond : n = 0xF4 → high.toNat ≤ 0x8F)
    (h : unitsFrom (.inside 3 (n - 0xF0) low high) bs = cs.map some) :
    BeginsWithChar (UInt8.ofNat n :: bs) cs := by
  obtain ⟨m, bs, rfl, hm, hm', h⟩ := exists_of_inside_more h
  obtain ⟨k, bs, rfl, hk, hk', h⟩ := exists_of_inside_more h
  obtain ⟨j, rest, cs', rfl, hj, hj', rfl, hrest⟩ := exists_of_inside_one h
  simp only [UInt8.reduceToNat] at hk hk' hj hj'
  refine ⟨_, cs', rest, rfl, ?_, hrest⟩
  generalize hv : (((n - 0xF0) * 64 + (m - 0x80)) * 64 + (k - 0x80)) * 64 + (j - 0x80) = v
  have hleast : 0x10000 ≤ v := by
    by_cases hn : n = 0xF0
    · have := hshort hn
      omega
    · omega
  have hmost : v < 0x110000 := by
    by_cases hn : n = 0xF4
    · have := hbeyond hn
      omega
    · omega
  have hn : v / 262144 % 8 + 240 = n := by omega
  have hm : v / 4096 % 64 + 128 = m := by omega
  have hk : v / 64 % 64 + 128 = k := by omega
  have hj : v % 64 + 128 = j := by omega
  rw [encodeChar_four hleast (.inr ⟨by omega, hmost⟩), hn, hm, hk, hj]
  rfl

/-- **Octets that are read without a fault begin with a character.** -/
lemma exists_of_unitsFrom_idle (hne : bs ≠ []) (h : unitsFrom .idle bs = cs.map some) :
    BeginsWithChar bs cs := by
  obtain ⟨b, bs, rfl⟩ := List.exists_cons_of_ne_nil hne
  have hfault {us : List (Option Char)} : none :: us ≠ cs.map some := by
    cases cs <;> simp
  rw [← UInt8.ofNat_toNat (x := b)] at h ⊢
  have hlt := b.toNat_lt
  generalize b.toNat = n at h hlt
  rw [unitsFrom_idle hlt] at h
  split_ifs at h with hone hlead htwo hshort hsurrogate hthree hshort' hfour hlast
  · cases cs with
    | nil => cases h
    | cons c cs =>
        rw [List.map_cons, List.cons.injEq, Option.some.injEq] at h
        exact ⟨c, cs, bs, rfl, by rw [← h.1, encodeChar_one hone]; rfl, h.2⟩
  · exact absurd h hfault
  · exact begins_of_inside_one (by omega) (by omega) h
  · subst hshort
    exact begins_of_inside_two (by decide) (by decide) (by decide) (by decide) (by decide)
      (by decide) h
  · subst hsurrogate
    exact begins_of_inside_two (by decide) (by decide) (by decide) (by decide) (by decide)
      (by decide) h
  · exact begins_of_inside_two (by omega) hthree (by decide) (by decide) (fun h => absurd h hshort)
      (fun h => absurd h hsurrogate) h
  · subst hshort'
    exact begins_of_inside_three (by decide) (by decide) (by decide) (by decide) (by decide)
      (by decide) h
  · exact begins_of_inside_three (by omega) (by omega) (by decide) (by decide)
      (fun h => absurd h hshort') (fun h => by omega) h
  · subst hlast
    exact begins_of_inside_three (by decide) (by decide) (by decide) (by decide) (by decide)
      (by decide) h
  · exact absurd h hfault

lemma eq_encode_of_units (h : units bs = cs.map some) : bs = encode cs := by
  induction cs generalizing bs with
  | nil =>
      by_contra hne
      obtain ⟨c, cs', rest, hcs, -⟩ := exists_of_unitsFrom_idle hne h
      cases hcs
  | cons c cs ih =>
      have hne : bs ≠ [] := by
        rintro rfl
        cases h
      obtain ⟨c', cs', rest, hcs, rfl, hrest⟩ := exists_of_unitsFrom_idle hne h
      cases hcs
      rw [encode, List.flatMap_cons, ih hrest, encode]

end Utf8

/-- **Octets are read as a text exactly when they are its octets.** -/
theorem decode?_eq_some_iff {bs : List Octet} {cs : List Char} :
    decode? bs = some cs ↔ bs = encode cs := by
  refine ⟨fun h => Utf8.eq_encode_of_units ?_, fun h => h ▸ decode?_encode cs⟩
  rw [decode?] at h
  generalize Utf8.units bs = us at h
  induction us generalizing cs with
  | nil =>
      cases h
      rfl
  | cons u us ih =>
      rw [List.mapM_cons] at h
      obtain ⟨c, rfl, hrest⟩ := Option.bind_eq_some_iff.mp h
      obtain ⟨cs', hcs', hlast⟩ := Option.bind_eq_some_iff.mp hrest
      obtain rfl := Option.some.inj hlast
      rw [List.map_cons, ih hcs']

/-- Different texts have different octets. -/
lemma encode_injective : Function.Injective encode := by
  intro cs cs' h
  have hcs := decode?_encode cs
  rw [h, decode?_encode] at hcs
  exact (Option.some.inj hcs).symm

end ReviewStream.Text
