import Mathlib.Tactic.Lemma
import Mathlib.Tactic.SplitIfs
import ReviewStream.Json.Writer
import ReviewStream.Proofs.Text.Digits
import ReviewStream.Proofs.Text.Rows

/-!
# What is written stays on its line

The text of a value is compact, and control characters inside strings and keys are escaped, so that
a value never breaks the line on which it is written.

* `Text.NoControl`: a text without control characters.
* **`Json.noControl_write`**: the text of a value has none.
* `Json.isRow_write`: the text of an object is a row of itself.
-/

namespace ReviewStream

namespace Text

variable {c : Char} {cs front back : List Char}

/-- A text without characters below the blank, so without line feeds in particular. -/
def NoControl (cs : List Char) : Prop := ∀ c ∈ cs, 0x20 ≤ c.toNat

@[simp] lemma noControl_nil : NoControl [] := nofun

@[simp] lemma noControl_cons : NoControl (c :: cs) ↔ 0x20 ≤ c.toNat ∧ NoControl cs :=
  List.forall_mem_cons

@[simp] lemma noControl_append : NoControl (front ++ back) ↔ NoControl front ∧ NoControl back :=
  List.forall_mem_append

lemma NoControl.subset (h : NoControl cs) (hsub : ∀ c ∈ front, c ∈ cs) : NoControl front :=
  fun c hc => h c (hsub c hc)

lemma NoControl.feed_notMem (h : NoControl cs) : '\n' ∉ cs := by
  intro hmem
  exact absurd (h '\n' hmem) (by decide)

lemma noControl_natDigits (n : Nat) : NoControl (natDigits n) := by
  intro c hc
  have hdigit := isDigit_of_mem_natDigits hc
  rw [Char.isDigit, Bool.and_eq_true, decide_eq_true_eq] at hdigit
  exact Nat.le_trans (by decide) (UInt32.le_iff_toNat_le.mp hdigit.1)

lemma noControl_intText (i : Int) : NoControl (intText i).toList := by
  cases i with
  | ofNat n => simpa [intText] using noControl_natDigits n
  | negSucc n => simpa [intText] using noControl_natDigits (n + 1)

end Text

open Text

lemma Binary64.noControl_decimalText (x : Binary64) : NoControl x.decimalText.toList := by
  have hdigits := noControl_natDigits x.shortest.digits
  have htake (n : Nat) : NoControl ((natDigits x.shortest.digits).take n) :=
    hdigits.subset fun _ => List.mem_of_mem_take
  have hdrop (n : Nat) : NoControl ((natDigits x.shortest.digits).drop n) :=
    hdigits.subset fun _ => List.mem_of_mem_drop
  have hzeros (n : Nat) : NoControl (List.replicate n '0') := by
    intro c hc
    rw [List.eq_of_mem_replicate hc]
    decide
  have hsign : NoControl (if x.isNegative then "-" else "").toList := by
    split_ifs <;> simp
  unfold decimalText
  generalize (if x.isNegative then "-" else "") = sign at hsign
  dsimp only
  split_ifs with hzero hwhole hinside hsmall hlarge
  · simp [hsign]
  · simp [hsign, hdigits, hzeros]
  · simp [hsign, htake, hdrop]
  · simp [hsign, hdigits, hzeros]
  all_goals
    simp only [hsign, noControl_natDigits, String.toList_append, String.toList_ofList,
      noControl_append, noControl_cons, and_true, true_and]
    refine ⟨?_, by decide, by decide⟩
    -- A mantissa of several digits has a point behind the first one.
    generalize natDigits x.shortest.digits = ds at hdigits ⊢
    rcases ds with _ | ⟨c, _ | ⟨d, rest⟩⟩
    · exact noControl_nil
    · exact hdigits
    · simpa using hdigits

namespace Json

lemma noControl_escape (c : Char) : NoControl (escape c) := by
  have hdigit (n : Nat) : 0x20 ≤ (hexDigit n).toNat := by
    have hall : ∀ m < 16, 0x20 ≤ (Nat.digitChar m).toNat := by decide
    exact hall _ (Nat.mod_lt n (by decide))
  unfold escape
  split
  case h_8 =>
    split_ifs with hcontrol
    · simp [hdigit]
    · simpa using hcontrol
  all_goals simp

lemma noControl_quoted (s : String) : NoControl (quoted s) := by
  have hinside : NoControl (s.toList.flatMap escape) := by
    intro c hc
    obtain ⟨d, -, hmem⟩ := List.mem_flatMap.mp hc
    exact noControl_escape d c hmem
  simp [quoted, hinside]

mutual

/-- **The text of a value has no control characters.** -/
theorem noControl_write : ∀ v : Json, NoControl v.write
  | .null | .bool true | .bool false => by simp [write]
  | .number (.integer i) => by simpa [write, Number.toText] using noControl_intText i
  | .number (.real x) => by simpa [write, Number.toText] using x.noControl_decimalText
  | .text s => by simpa [write] using noControl_quoted s
  | .list items => by simpa [write] using noControl_writeItems items
  | .object members => by simpa [write] using noControl_writeMembers members

/-- The text of the items of a list has no control characters. -/
theorem noControl_writeItems : ∀ items : List Json, NoControl (writeItems items)
  | [] => by simp [writeItems]
  | [v] => by simpa [writeItems] using noControl_write v
  | v :: w :: items => by
    simpa [writeItems] using ⟨noControl_write v, noControl_writeItems (w :: items)⟩

/-- The text of the members of an object has no control characters. -/
theorem noControl_writeMembers :
    ∀ members : List (String × Json), NoControl (writeMembers members)
  | [] => by simp [writeMembers]
  | [(k, v)] => by simpa [writeMembers] using ⟨noControl_quoted k, noControl_write v⟩
  | (k, v) :: member :: members => by
    simpa [writeMembers] using
      ⟨noControl_quoted k, noControl_write v, noControl_writeMembers (member :: members)⟩

end

/-- The text of an object is a row of itself. -/
lemma isRow_write {v : Json} (h : v.isObject = true) : IsRow v.write v.write := by
  cases v with
  | object members =>
      refine isRow_self (noControl_write _).feed_notMem ⟨?_, ?_⟩
      · intro c hc
        cases hc
        rfl
      · intro c hc
        rw [write, ← List.cons_append, List.getLast?_concat] at hc
        cases hc
        rfl
  | _ => cases h

end Json

end ReviewStream
