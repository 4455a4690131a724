import Mathlib.Tactic.Lemma
import Mathlib.Tactic.SplitIfs
import ReviewStream.Text.Utf8

/-!
# Text that is written as octets is read again

A character is written as a lead octet, which says how many octets follow, and those.  The first of
them has a narrower range after some lead octets, but no character is outside of it.

* `Text.Utf8.unitsFrom_encodeChar`: the octets of a character are read as that character.
* **`Text.decode?_encode`**: the octets of a text are well-formed and read as that text.
* `Text.mem_of_mem_encode`: an octet below 0x80 stands for a character only.
-/

namespace ReviewStream.Text

namespace Utf8

variable {need bits n : Nat} {low high : Octet} {rest : List Octet}

lemma unitsFrom_cons (p : Pending) (b : Octet) (bs : List Octet) :
    unitsFrom p (b :: bs) = (step p b).1 ++ unitsFrom (step p b).2 bs := by
  cases p <;> rfl

/-! ## Octets inside a character -/

/-- The octets in the common range are what six bits are written as. -/
lemma common (n : Nat) :
    (0x80 : Octet).toNat ≤ n % 64 + 128 ∧ n % 64 + 128 ≤ (0xBF : Octet).toNat := by
  change 0x80 ≤ n % 64 + 128 ∧ n % 64 + 128 ≤ 0xBF
  omega

/-- An octet that is expected adds six bits to the character that is being read. -/
lemma step_inside (hlow : low.toNat ≤ n) (hhigh : n ≤ high.toNat) :
    step (.inside need bits low high) (UInt8.ofNat n) =
      if need ≤ 1 then ([some (Char.ofNat (bits * 64 + (n - 0x80)))], .idle)
      else ([], .inside (need - 1) (bits * 64 + (n - 0x80)) 0x80 0xBF) := by
  have hn : (UInt8.ofNat n).toNat = n := by
    have := high.toNat_lt
    rw [UInt8.toNat_ofNat']
    omega
  have hexpected : (low ≤ UInt8.ofNat n && UInt8.ofNat n ≤ high) = true := by
    simp [UInt8.le_iff_toNat_le, hn, hlow, hhigh]
  rw [step, if_pos hexpected, hn]

lemma unitsFrom_inside_one {v : Nat} (hlow : low.toNat ≤ n) (hhigh : n ≤ high.toNat)
    (hv : bits * 64 + (n - 0x80) = v) :
    unitsFrom (.inside 1 bits low high) (UInt8.ofNat n :: rest)
      = some (Char.ofNat v) :: unitsFrom .idle rest := by
  rw [unitsFrom_cons, step_inside hlow hhigh, hv]
  rfl

/-- After the next one, the octets that follow are in the common range. -/
lemma unitsFrom_inside_more {bits' : Nat} (hlow : low.toNat ≤ n) (hhigh : n ≤ high.toNat)
    (hbits : bits * 64 + (n - 0x80) = bits') :
    unitsFrom (.inside (need + 2) bits low high) (UInt8.ofNat n :: rest)
      = unitsFrom (.inside (need + 1) bits' 0x80 0xBF) rest := by
  rw [unitsFrom_cons, step_inside hlow hhigh, if_neg (by omega), hbits]
  rfl

/-- A character of two more octets, the first of which has a range of its own. -/
lemma unitsFrom_inside_two {v : Nat} (hlow : low.toNat ≤ v / 64 % 64 + 128)
    (hhigh : v / 64 % 64 + 128 ≤ high.toNat) (hbits : bits = v / 4096) :
    unitsFrom (.inside 2 bits low high)
        (UInt8.ofNat (v / 64 % 64 + 128) :: UInt8.ofNat (v % 64 + 128) :: rest)
      = some (Char.ofNat v) :: unitsFrom .idle rest := by
  have hsix : bits * 64 + (v / 64 % 64 + 128 - 0x80) = v / 64 := by omega
  have hall : v / 64 * 64 + (v % 64 + 128 - 0x80) = v := by omega
  rw [unitsFrom_inside_more hlow hhigh hsix]
  exact unitsFrom_inside_one (common v).1 (common v).2 hall

/-- A character of three more octets, the first of which has a range of its own. -/
lemma unitsFrom_inside_three {v : Nat} (hlow : low.toNat ≤ v / 4096 % 64 + 128)
    (hhigh : v / 4096 % 64 + 128 ≤ high.toNat) (hbits : bits = v / 262144) :
    unitsFrom (.inside 3 bits low high)
        (UInt8.ofNat (v / 4096 % 64 + 128) :: UInt8.ofNat (v / 64 % 64 + 128)
          :: UInt8.ofNat (v % 64 + 128) :: rest)
      = some (Char.ofNat v) :: unitsFrom .idle rest := by
  have hsix : bits * 64 + (v / 4096 % 64 + 128 - 0x80) = v / 4096 := by omega
  rw [unitsFrom_inside_more hlow hhigh hsix]
  exact unitsFrom_inside_two (common _).1 (common _).2 rfl

/-! ## Lead octets -/

lemma unitsFrom_ite {p : Prop} [Decidable p] (x y : List (Option Char) × Pending) :
    (if p then x else y).1 ++ unitsFrom (if p then x else y).2 rest =
      if p then x.1 ++ unitsFrom x.2 rest else y.1 ++ unitsFrom y.2 rest := by
  split_ifs <;> rfl

lemma unitsFrom_idle (hn : n < 256) : unitsFrom .idle (UInt8.ofNat n :: rest) =
    if n < 0x80 then some (Char.ofNat n) :: unitsFrom .idle rest
    else if n < 0xC2 then none :: unitsFrom .idle rest
    else if n < 0xE0 then unitsFrom (.inside 1 (n - 0xC0) 0x80 0xBF) rest
    else if n = 0xE0 then unitsFrom (.inside 2 0 0xA0 0xBF) rest
    else if n = 0xED then unitsFrom (.inside 2 0xD 0x80 0x9F) rest
    else if n < 0xF0 then unitsFrom (.inside 2 (n - 0xE0) 0x80 0xBF) rest
    else if n = 0xF0 then unitsFrom (.inside 3 0 0x90 0xBF) rest
    else if n < 0xF4 then unitsFrom (.inside 3 (n - 0xF0) 0x80 0xBF) rest
    else if n = 0xF4 then unitsFrom (.inside 3 4 0x80 0x8F) rest
    else none :: unitsFrom .idle rest := by
  have htoNat : (UInt8.ofNat n).toNat = n := by
    rw [UInt8.toNat_ofNat']
    omega
  rw [unitsFrom_cons, step, start]
  simp only [unitsFrom_ite, UInt8.lt_iff_toNat_lt, beq_iff_eq, ← UInt8.toNat_inj, htoNat]
  simp only [UInt8.reduceToNat]
  rfl

/-! ## Characters -/

/-- A character is no surrogate. -/
lemma toNat_notSurrogate (c : Char) : c.toNat < 0xD800 ∨ 0xDFFF < c.toNat ∧ c.toNat < 0x110000 :=
  c.valid

lemma encodeChar_eq (c : Char) : String.utf8EncodeChar c =
    if c.toNat ≤ 0x7F then [UInt8.ofNat c.toNat]
    else if c.toNat ≤ 0x7FF then
      [UInt8.ofNat (c.toNat / 64 % 32 + 192), UInt8.ofNat (c.toNat % 64 + 128)]
    else if c.toNat ≤ 0xFFFF then
      [UInt8.ofNat (c.toNat / 4096 % 16 + 224), UInt8.ofNat (c.toNat / 64 % 64 + 128),
        UInt8.ofNat (c.toNat % 64 + 128)]
    else
      [UInt8.ofNat (c.toNat / 262144 % 8 + 240), UInt8.ofNat (c.toNat / 4096 % 64 + 128),
        UInt8.ofNat (c.toNat / 64 % 64 + 128), UInt8.ofNat (c.toNat % 64 + 128)] :=
  rfl

/-- The octets of a character are read as that character. -/
lemma unitsFrom_encodeChar (c : Char) (rest : List Octet) :
    unitsFrom .idle (String.utf8EncodeChar c ++ rest) = some c :: unitsFrom .idle rest := by
  have hvalid := toNat_notSurrogate c
  have hchar : Char.ofNat c.toNat = c := Char.ofNat_toNat c
  rw [encodeChar_eq]
  generalize c.toNat = v at hvalid hchar
  subst hchar
  split_ifs with hone htwo hthree
  · rw [List.singleton_append, unitsFrom_idle (by omega), if_pos (by omega)]
  · rw [List.cons_append, List.singleton_append, unitsFrom_idle (by omega)]
    rw [if_neg (by omega), if_neg (by omega), if_pos (by omega)]
    exact unitsFrom_inside_one (common _).1 (common _).2 (by omega)
  · rw [List.cons_append, List.cons_append, List.singleton_append, unitsFrom_idle (by omega)]
    rw [if_neg (by omega), if_neg (by omega), if_neg (by omega)]
    -- Overlong encodings and surrogates are what the narrower ranges leave out.
    split_ifs with hleast hsurrogate
    · exact unitsFrom_inside_two (by simp; omega) (by simp; omega) (by omega)
    · exact unitsFrom_inside_two (by simp) (by simp; omega) (by omega)
    · exact unitsFrom_inside_two (by simp) (by simp; omega) (by omega)
    all_goals omega
  · rw [List.cons_append, List.cons_append, List.cons_append, List.singleton_append,
      unitsFrom_idle (by omega)]
    rw [if_neg (by omega), if_neg (by omega), if_neg (by omega), if_neg (by omega),
      if_neg (by omega), if_neg (by omega)]
    split_ifs with hleast hmiddle hgreatest
    · exact unitsFrom_inside_three (by simp; omega) (by simp; omega) (by omega)
    · exact unitsFrom_inside_three (by simp) (by simp; omega) (by omega)
    · exact unitsFrom_inside_three (by simp) (by simp; omega) (by omega)
    · omega

lemma units_encode (cs : List Char) : units (encode cs) = cs.map some := by
  induction cs with
  | nil => rfl
  | cons c cs ih =>
      rw [encode, List.flatMap_cons, units, unitsFrom_encodeChar, List.map_cons]
      exact congrArg (some c :: ·) ih

end Utf8

/-- **The octets of a text are well-formed and read as that text.** -/
theorem decode?_encode (cs : List Char) : decode? (encode cs) = some cs := by
  rw [decode?, Utf8.units_encode]
  induction cs with
  | nil => rfl
  | cons c cs ih =>
      rw [List.map_cons, List.mapM_cons, ih]
      rfl

/-- Nothing is replaced in the octets of a text. -/
lemma decodeLossy_encode (cs : List Char) : decodeLossy (encode cs) = cs := by
  rw [decodeLossy, Utf8.units_encode, List.map_map]
  exact List.map_id cs

lemma encode_append (front back : List Char) :
    encode (front ++ back) = encode front ++ encode back := List.flatMap_append

/-- An octet below 0x80 is a character, and no part of another one. -/
lemma mem_of_mem_encode {b : Octet} {cs : List Char} (h : b ∈ encode cs) (hb : b.toNat < 0x80) :
    ∃ c ∈ cs, c.toNat = b.toNat := by
  obtain ⟨c, hc, hmem⟩ := List.mem_flatMap.mp h
  refine ⟨c, hc, ?_⟩
  have hvalid := Utf8.toNat_notSurrogate c
  rw [Utf8.encodeChar_eq] at hmem
  split_ifs at hmem with hone
  · rw [List.mem_singleton.mp hmem, UInt8.toNat_ofNat']
    omega
  all_goals
    -- All octets of a longer encoding have the highest bit.
    simp only [List.mem_cons, List.not_mem_nil, or_false] at hmem
    rcases hmem with rfl | rfl | rfl | rfl <;> rw [UInt8.toNat_ofNat'] at hb <;> omega

end ReviewStream.Text
