import Mathlib.Data.List.TakeWhile
import Mathlib.Tactic.Lemma
import Mathlib.Tactic.SplitIfs
import ReviewStream.Toml.Scalar
import ReviewStream.Toml.Writer

/-!
# TOML strings that are read again

A text is written as the least ornate kind of string that can hold it.  Whichever that is, the text
is read from it.

* `readEscape?_basicChar`: an escape is read as the character that it was written for.
* `closing?_append`: where a string over several lines ends.
* **`readString?_quoted`**: every text is read from the string that it is written as.
-/

namespace ReviewStream.Toml

variable {c q : Char} {cs rest : List Char}

/-! ## Characters -/

lemma isPlain_of_not_needsEscape (h : needsEscape c = false) (hline : c ≠ '\n') :
    isPlain c = true := by
  simp only [needsEscape, Bool.or_eq_false_iff, Bool.and_eq_false_iff, decide_eq_false_iff_not,
    bne_eq_false_iff_eq, beq_eq_false_iff_ne] at h
  simp only [isPlain, Bool.or_eq_true, beq_iff_eq, Bool.and_eq_true, decide_eq_true_eq]
  grind

/-- The escapes by number are those of control characters, each of four digits. -/
lemma numberEscape_spec : ∀ n < 128, needsEscape (Char.ofNat n) →
    (numberEscape (Char.ofNat n)).take 2 = ['\\', 'u'] ∧
    (numberEscape (Char.ofNat n)).length = 6 ∧
    (hexNumber? ((numberEscape (Char.ofNat n)).drop 2)).bind scalar? = some (Char.ofNat n) := by
  decide

lemma readEscape?_four {digits : List Char} (hlength : digits.length = 4)
    (hvalue : (hexNumber? digits).bind scalar? = some c) :
    readEscape? ('u' :: (digits ++ rest)) = some (c, rest) := by
  have hmore : ¬ (digits ++ rest).length < 4 := by
    rw [List.length_append]
    omega
  rw [readEscape?, if_neg hmore, List.take_left' hlength, List.drop_left' hlength, hvalue]
  rfl

/-- A control character is read from its number. -/
lemma exists_numberEscape (h : needsEscape c) :
    ∃ digits, numberEscape c = '\\' :: 'u' :: digits
      ∧ ∀ rest, readEscape? ('u' :: (digits ++ rest)) = some (c, rest) := by
  have hcontrol : c.toNat < 128 := by
    simp only [needsEscape, Bool.or_eq_true, Bool.and_eq_true, decide_eq_true_eq,
      beq_iff_eq] at h
    omega
  have hspec := numberEscape_spec c.toNat hcontrol
  rw [Char.ofNat_toNat] at hspec
  obtain ⟨hfront, hlength, hvalue⟩ := hspec h
  refine ⟨(numberEscape c).drop 2, ?_, fun rest => readEscape?_four ?_ hvalue⟩
  · exact (List.take_append_drop 2 _).symm.trans (by rw [hfront]; rfl)
  · rw [List.length_drop, hlength]

/-- How a character is written in a basic string: as an escape, from which it is read, or as
itself. -/
inductive Escaped (overLines : Bool) (c : Char) : List Char → Prop where
  | escape (d : Char) (tail : List Char)
      (hread : ∀ rest, readEscape? (d :: (tail ++ rest)) = some (c, rest))
      (hd : d ≠ '\n' ∧ d ≠ '\r' ∧ isSpace d = false) : Escaped overLines c ('\\' :: d :: tail)
  | plain (hc : isPlain c) (hslash : c ≠ '\\') : Escaped overLines c [c]
  | lineEnd (h : overLines) (hc : c = '\n') : Escaped overLines c [c]

lemma Escaped.ne_nil {overLines : Bool} {body : List Char} (h : Escaped overLines c body) :
    body ≠ [] := by
  cases h <;> exact List.cons_ne_nil _ _

lemma escaped_basicChar (overLines : Bool) (c : Char) :
    Escaped overLines c (basicChar overLines c) := by
  unfold basicChar
  split
  · exact .escape 'b' [] (fun _ => rfl) (by decide)
  · exact .escape 't' [] (fun _ => rfl) (by decide)
  · split_ifs with h
    · exact .lineEnd h rfl
    · exact .escape 'n' [] (fun _ => rfl) (by decide)
  · exact .escape 'f' [] (fun _ => rfl) (by decide)
  · exact .escape 'r' [] (fun _ => rfl) (by decide)
  · exact .escape '\\' [] (fun _ => rfl) (by decide)
  · next hline _ _ hslash =>
    split_ifs with h
    · obtain ⟨digits, hdigits, hread⟩ := exists_numberEscape h
      rw [hdigits]
      exact .escape 'u' digits hread (by decide)
    · exact .plain (isPlain_of_not_needsEscape (Bool.eq_false_iff.mpr h) hline) hslash

lemma basicChars_cons (overLines : Bool) (run : Nat) (hquote : c ≠ '"') (cs : List Char) :
    basicChars overLines run (c :: cs) = basicChar overLines c ++ basicChars overLines 0 cs := by
  rw [basicChars]
  exact hquote

lemma basicChars_quote (run : Nat) (cs : List Char) :
    basicChars false run ('"' :: cs) = '\\' :: '"' :: basicChars false 0 cs := by
  rw [basicChars]
  exact if_pos (Nat.zero_lt_succ run)

lemma basicChars_quoteOverLines (run : Nat) (cs : List Char) :
    basicChars true run ('"' :: cs) =
      if 2 < run + 1 then '\\' :: '"' :: basicChars true 0 cs
      else '"' :: basicChars true (run + 1) cs := by
  rw [basicChars]
  rfl

/-! ## Strings on one line -/

lemma readBasic?_escaped {body tail : List Char} {fuel : Nat} (h : Escaped false c body)
    (hquote : c ≠ '"') :
    readBasic? (fuel + 1) (body ++ tail)
      = (readBasic? fuel tail).map fun (s, r) => (c :: s, r) := by
  cases h with
  | escape d digits hread =>
      rw [List.cons_append, List.cons_append, readBasic?, hread]
  | plain hc hslash =>
      rw [List.singleton_append, readBasic?, if_pos hc]
      · exact hquote
      · exact hslash
  | lineEnd h => cases h

/-- A text is read from its basic string. -/
lemma readBasic?_basicChars {fuel : Nat} (hfuel : cs.length < fuel) (rest : List Char) :
    readBasic? fuel (basicChars false 0 cs ++ '"' :: rest) = some (cs, rest) := by
  induction cs generalizing fuel with
  | nil =>
      obtain ⟨fuel, rfl⟩ := Nat.exists_eq_add_one_of_ne_zero (Nat.ne_zero_of_lt hfuel)
      rfl
  | cons c cs ih =>
      obtain ⟨fuel, rfl⟩ := Nat.exists_eq_add_one_of_ne_zero (Nat.ne_zero_of_lt hfuel)
      have hrest := ih (Nat.lt_of_succ_lt_succ hfuel)
      by_cases hquote : c = '"'
      · rw [hquote, basicChars_quote]
        change (readBasic? fuel (basicChars false 0 cs ++ '"' :: rest)).map _ = _
        rw [hrest]
        rfl
      · rw [basicChars_cons false 0 hquote, List.append_assoc,
          readBasic?_escaped (escaped_basicChar false c) hquote, hrest]
        rfl

/-- A text is read from its literal string. -/
lemma readLiteral?_append (h : ∀ c ∈ cs, isPlain c ∧ c ≠ '\'') (rest : List Char) :
    readLiteral? (cs ++ '\'' :: rest) = some (cs, rest) := by
  induction cs with
  | nil => rfl
  | cons c cs ih =>
      obtain ⟨hplain, hquote⟩ := h c List.mem_cons_self
      rw [List.cons_append, readLiteral?, if_pos hplain,
        ih fun d hd => h d (List.mem_cons_of_mem _ hd)]
      · rfl
      · exact hquote

/-! ## Strings over several lines -/

/-- The length of the run of a character in front. -/
def runLength (q : Char) (cs : List Char) : Nat := (cs.takeWhile (· == q)).length

lemma runLength_replicate_append (n : Nat) (h : rest.head? ≠ some q) :
    runLength q (List.replicate n q ++ rest) = n := by
  have hrest : rest.takeWhile (· == q) = [] := by
    cases rest with
    | nil => rfl
    | cons c rest =>
        refine List.takeWhile_cons_of_neg ?_
        simpa using h
  rw [runLength, List.takeWhile_append_of_pos, hrest, List.append_nil, List.length_replicate]
  intro d hd
  simpa using List.eq_of_mem_replicate hd

lemma runLength_replicate (n : Nat) (q : Char) : runLength q (List.replicate n q) = n := by
  have h : ([] : List Char).head? ≠ some q := nofun
  rw [← List.append_nil (List.replicate n q), runLength_replicate_append n h]

/-- A text that is not a run throughout goes on after the run in front of it. -/
lemma eq_replicate_or_runLength (q : Char) (cs : List Char) :
    cs = List.replicate cs.length q ∨ ∀ later, runLength q (cs ++ later) = runLength q cs := by
  induction cs with
  | nil => exact .inl rfl
  | cons c cs ih =>
      by_cases hc : c = q
      · subst hc
        rcases ih with hall | hrun
        · exact .inl (congrArg (c :: ·) hall)
        · refine .inr fun later => ?_
          have hlater := hrun later
          rw [runLength, runLength] at hlater ⊢
          rw [List.cons_append, List.takeWhile_cons_of_pos (by simp),
            List.takeWhile_cons_of_pos (by simp), List.length_cons, List.length_cons, hlater]
      · refine .inr fun later => ?_
        rw [runLength, runLength, List.cons_append, List.takeWhile_cons_of_neg (by simpa using hc),
          List.takeWhile_cons_of_neg (by simpa using hc)]

/-- Three quotes end a string; up to two more before them belong to its text. -/
lemma closing?_replicate {n : Nat} (hn : n ≤ 2) (h : rest.head? ≠ some q) :
    closing? q (List.replicate n q ++ q :: q :: q :: rest) = some (List.replicate n q, rest) := by
  have heq : List.replicate n q ++ q :: q :: q :: rest = List.replicate (n + 3) q ++ rest := by
    rw [← List.replicate_append_replicate, List.append_assoc]
    rfl
  have hrun : ((List.replicate (n + 3) q ++ rest).takeWhile (· == q)).length = n + 3 :=
    runLength_replicate_append (n + 3) h
  simp only [closing?, heq, hrun]
  rw [if_neg (by omega)]
  have hown : min (n + 3) 5 - 3 = n := by omega
  rw [hown, List.drop_left' (List.length_replicate)]

lemma closing?_eq_none (h : runLength q cs < 3) : closing? q cs = none := by
  rw [runLength] at h
  rw [closing?, if_pos h]

/-- A string whose text has no more than two quotes in front ends where the text is nothing but
these, and else goes on. -/
lemma closing?_append (hrun : runLength q cs ≤ 2) (h : rest.head? ≠ some q) :
    (cs = List.replicate cs.length q ∧ closing? q (cs ++ q :: q :: q :: rest) = some (cs, rest)) ∨
    (cs ≠ [] ∧ closing? q (cs ++ q :: q :: q :: rest) = none) := by
  rcases eq_replicate_or_runLength q cs with hall | hlater
  · have hlength : runLength q cs = cs.length := by
      rw [hall, runLength_replicate, List.length_replicate]
    refine .inl ⟨hall, ?_⟩
    rw [hall]
    exact closing?_replicate (hlength ▸ hrun) h
  · refine .inr ⟨?_, closing?_eq_none ?_⟩
    · rintro rfl
      have hthree := hlater [q]
      simp [runLength] at hthree
    · rw [hlater]
      omega

/-! ### Basic strings -/

lemma Escaped.runLength_append {overLines : Bool} {body : List Char} (h : Escaped overLines c body)
    (hquote : c ≠ '"') (later : List Char) : runLength '"' (body ++ later) = 0 := by
  cases h with
  | escape => rfl
  | plain | lineEnd =>
      rw [runLength, List.singleton_append, List.takeWhile_cons_of_neg (by simpa using hquote)]
      rfl

/-- No more quotes stand in front than are left of two. -/
lemma runLength_basicChars {run : Nat} (hrun : run ≤ 2) (cs : List Char) :
    runLength '"' (basicChars true run cs) ≤ 2 - run := by
  induction cs generalizing run with
  | nil => exact Nat.zero_le _
  | cons c cs ih =>
      by_cases hquote : c = '"'
      · rw [hquote, basicChars_quoteOverLines]
        split_ifs with hmany
        · exact Nat.zero_le _
        · have hmore := ih (Nat.le_of_not_lt hmany)
          rw [runLength] at hmore ⊢
          rw [List.takeWhile_cons_of_pos (by rfl), List.length_cons]
          omega
      · rw [basicChars_cons true run hquote,
          (escaped_basicChar true c).runLength_append hquote]
        exact Nat.zero_le _

/-- What is written as nothing but quotes is nothing but quotes. -/
lemma eq_of_basicChars_eq_replicate {run n : Nat}
    (h : basicChars true run cs = List.replicate n '"') : cs = List.replicate n '"' := by
  induction cs generalizing run n with
  | nil => exact h
  | cons c cs ih =>
      by_cases hquote : c = '"'
      · rw [hquote, basicChars_quoteOverLines] at h
        split_ifs at h
        · cases n <;> cases h
        · cases n with
          | zero => cases h
          | succ n =>
              rw [hquote, ih (List.cons.inj h).2]
              rfl
      · have hrun := (escaped_basicChar true c).runLength_append hquote (basicChars true 0 cs)
        rw [← basicChars_cons true run hquote, h, runLength_replicate] at hrun
        subst hrun
        rw [basicChars_cons true run hquote] at h
        have hbody := (List.append_eq_nil_iff.mp h).1
        exact absurd hbody (escaped_basicChar true c).ne_nil

/-- A character is written as an escape or as itself, also a quote. -/
lemma exists_basicChars_cons (run : Nat) (c : Char) (cs : List Char) :
    ∃ body next, next ≤ 2 ∧ Escaped true c body
      ∧ basicChars true run (c :: cs) = body ++ basicChars true next cs := by
  by_cases hquote : c = '"'
  · subst hquote
    rw [basicChars_quoteOverLines]
    split_ifs with hmany
    · exact ⟨['\\', '"'], 0, Nat.zero_le 2, .escape '"' [] (fun _ => rfl) (by decide), rfl⟩
    · exact ⟨['"'], run + 1, Nat.le_of_not_lt hmany, .plain rfl (by decide), rfl⟩
  · exact ⟨_, 0, Nat.zero_le 2, escaped_basicChar true c, basicChars_cons true run hquote cs⟩

lemma newline?_cons_of_ne {tail : List Char} (hline : c ≠ '\n') (hreturn : c ≠ '\r') :
    newline? (c :: tail) = none := by
  rw [newline?]
  · rintro rest ⟨⟩
    exact hline rfl
  · rintro rest ⟨⟩
    exact hreturn rfl

lemma skipSpace_cons_of_not {tail : List Char} (h : isSpace c = false) :
    skipSpace (c :: tail) = c :: tail :=
  List.dropWhile_cons_of_neg (by simp [h])

lemma isPlain_ne_return (h : isPlain c) : c ≠ '\n' ∧ c ≠ '\r' := by
  constructor <;> rintro rfl <;> cases h

lemma readBasicLines?_of_closing {fuel : Nat} {own : List Char}
    (h : closing? '"' cs = some (own, rest)) :
    readBasicLines? (fuel + 1) cs = some (own, rest) := by
  unfold readBasicLines?
  simp only [h]

/-- One character is read from a string that goes on. -/
lemma readBasicLines?_escaped {body tail : List Char} {fuel : Nat} (h : Escaped true c body)
    (hclosing : closing? '"' (body ++ tail) = none) : readBasicLines? (fuel + 1) (body ++ tail)
      = (readBasicLines? fuel tail).map fun (s, r) => (c :: s, r) := by
  cases h with
  | escape d digits hread hd =>
      have hline : newline? (skipSpace (d :: (digits ++ tail))) = none := by
        rw [skipSpace_cons_of_not hd.2.2, newline?_cons_of_ne hd.1 hd.2.1]
      have hslash : newline? ('\\' :: d :: (digits ++ tail)) = none := rfl
      rw [List.cons_append, List.cons_append] at hclosing ⊢
      simp only [readBasicLines?, hclosing, hslash, hline, hread]
  | plain hc hslash =>
      have hline : newline? (c :: tail) = none :=
        newline?_cons_of_ne (isPlain_ne_return hc).1 (isPlain_ne_return hc).2
      rw [List.singleton_append] at hclosing ⊢
      rw [readBasicLines?.eq_def]
      simp only [hclosing, hline, hc, if_true]
  | lineEnd _ hc =>
      subst hc
      rw [List.singleton_append] at hclosing ⊢
      simp only [readBasicLines?, hclosing, newline?]

/-- A text is read from its basic string over several lines. -/
lemma readBasicLines?_basicChars {run fuel : Nat} (hrun : run ≤ 2) (hfuel : cs.length < fuel)
    (hrest : rest.head? ≠ some '"') :
    readBasicLines? fuel (basicChars true run cs ++ '"' :: '"' :: '"' :: rest)
      = some (cs, rest) := by
  induction cs generalizing run fuel with
  | nil =>
      obtain ⟨fuel, rfl⟩ := Nat.exists_eq_add_one_of_ne_zero (Nat.ne_zero_of_lt hfuel)
      exact readBasicLines?_of_closing (closing?_replicate (Nat.zero_le 2) hrest)
  | cons c cs ih =>
      obtain ⟨fuel, rfl⟩ := Nat.exists_eq_add_one_of_ne_zero (Nat.ne_zero_of_lt hfuel)
      have hfront := runLength_basicChars hrun (c :: cs)
      rcases closing?_append (hfront.trans (Nat.sub_le 2 run)) hrest with
        ⟨hall, hclosing⟩ | ⟨-, hclosing⟩
      · -- All that is left of the text is quotes, right before the closing ones.
        have heq : c :: cs = basicChars true run (c :: cs) :=
          (eq_of_basicChars_eq_replicate hall).trans hall.symm
        rw [readBasicLines?_of_closing hclosing, ← heq]
      · obtain ⟨body, next, hnext, hescaped, hbody⟩ := exists_basicChars_cons run c cs
        rw [hbody, List.append_assoc] at hclosing ⊢
        rw [readBasicLines?_escaped hescaped hclosing, ih hnext (Nat.lt_of_succ_lt_succ hfuel)]
        rfl

/-! ### Literal strings -/

lemma runLength_cons (q c : Char) (cs : List Char) :
    runLength q (c :: cs) = if q = c then runLength q cs + 1 else 0 := by
  rw [runLength, runLength]
  split_ifs with h
  · rw [List.takeWhile_cons_of_pos (by simp [h]), List.length_cons]
  · rw [List.takeWhile_cons_of_neg (by simpa using Ne.symm h), List.length_nil]

/-- The run that is being counted goes on with the run in front of what is left. -/
lemma runLength_le_of_foldl {n longest run : Nat}
    (h : (cs.foldl (fun (longest, run) d =>
      let run := if q = d then run + 1 else 0
      (max longest run, run)) (longest, run)).1 ≤ n) :
    longest ≤ n ∧ (run ≤ longest → run + runLength q cs ≤ n)
      ∧ ∀ tail, tail <:+ cs → runLength q tail ≤ n := by
  induction cs generalizing longest run with
  | nil =>
      refine ⟨h, fun hrun => Nat.le_trans hrun h, fun tail htail => ?_⟩
      rw [List.suffix_nil.mp htail]
      exact Nat.zero_le n
  | cons d cs ih =>
      obtain ⟨hlongest, hrun, htails⟩ := ih h
      replace hrun := hrun (Nat.le_max_right _ _)
      have hall : (if q = d then run + 1 else 0) + runLength q cs ≤ n := hrun
      refine ⟨Nat.le_trans (Nat.le_max_left _ _) hlongest, fun hle => ?_, fun tail htail => ?_⟩
      · rw [runLength_cons]
        split_ifs at hall ⊢ <;> omega
      · rcases List.suffix_cons_iff.mp htail with rfl | hlater
        · rw [runLength_cons]
          split_ifs at hall ⊢ <;> omega
        · exact htails tail hlater

/-- The longest run is at least as long as the one in front of any later part. -/
lemma runLength_le_longestRun {n : Nat} (h : longestRun q cs ≤ n) :
    ∀ tail, tail <:+ cs → runLength q tail ≤ n :=
  (runLength_le_of_foldl h).2.2

/-- What does not occur has no run. -/
lemma not_mem_of_longestRun (h : longestRun q cs = 0) : q ∉ cs := by
  intro hmem
  obtain ⟨front, back, rfl⟩ := List.append_of_mem hmem
  have hrun := runLength_le_longestRun (Nat.le_of_eq h) (q :: back) (List.suffix_append _ _)
  rw [runLength_cons, if_pos rfl] at hrun
  omega

/-- A text is read from its literal string over several lines. -/
lemma readLiteralLines?_append {fuel : Nat} (hplain : ∀ c ∈ cs, needsEscape c = false)
    (hruns : ∀ tail, tail <:+ cs → runLength '\'' tail ≤ 2) (hfuel : cs.length < fuel)
    (hrest : rest.head? ≠ some '\'') :
    readLiteralLines? fuel (cs ++ '\'' :: '\'' :: '\'' :: rest) = some (cs, rest) := by
  induction cs generalizing fuel with
  | nil =>
      obtain ⟨fuel, rfl⟩ := Nat.exists_eq_add_one_of_ne_zero (Nat.ne_zero_of_lt hfuel)
      have hclosing : closing? '\'' ([] ++ '\'' :: '\'' :: '\'' :: rest) = some ([], rest) :=
        closing?_replicate (Nat.zero_le 2) hrest
      rw [readLiteralLines?.eq_def]
      simp only [hclosing]
  | cons c cs ih =>
      obtain ⟨fuel, rfl⟩ := Nat.exists_eq_add_one_of_ne_zero (Nat.ne_zero_of_lt hfuel)
      have hread := ih (fun d hd => hplain d (List.mem_cons_of_mem _ hd))
        (fun tail htail => hruns tail (htail.trans (List.suffix_cons c cs)))
        (Nat.lt_of_succ_lt_succ hfuel)
      rw [readLiteralLines?.eq_def]
      rcases closing?_append (hruns _ List.suffix_rfl) hrest with ⟨-, hclosing⟩ | ⟨-, hclosing⟩
      · simp only [hclosing]
      · rw [List.cons_append] at hclosing ⊢
        by_cases hline : c = '\n'
        · subst hline
          simp only [hclosing, newline?, hread, Option.map_some]
        · have hc : isPlain c = true :=
            isPlain_of_not_needsEscape (hplain c List.mem_cons_self) hline
          have hnewline : newline? (c :: (cs ++ '\'' :: '\'' :: '\'' :: rest)) = none :=
            newline?_cons_of_ne hline (isPlain_ne_return hc).2
          simp only [hclosing, hnewline, hc, if_true, hread, Option.map_some]

/-! ## All strings -/

lemma length_le_basicChars (overLines : Bool) (run : Nat) (cs : List Char) :
    cs.length ≤ (basicChars overLines run cs).length := by
  fun_induction basicChars overLines run cs with
  | case1 => exact Nat.le_refl _
  | case2 run cs hmany ih =>
      simp only [List.length_cons] at ih ⊢
      omega
  | case3 run cs hmany ih =>
      simp only [List.length_cons] at ih ⊢
      omega
  | case4 run c cs _ ih =>
      have hbody := List.length_pos_iff.mpr (escaped_basicChar overLines c).ne_nil
      rw [List.length_append, List.length_cons]
      omega

/-- Two quotes that another one does not follow are an empty string. -/
lemma readString?_basic {tail : List Char} (h : runLength '"' tail ≤ 1) :
    readString? ('"' :: tail)
      = (readBasic? (tail.length + 1) tail).map fun (s, r) => (String.ofList s, r) := by
  unfold readString?
  simp only
  split
  · next heq =>
    cases heq
    simp [runLength_cons] at h
  · next heq =>
    cases heq
    rfl
  · next heq => cases heq
  · next heq => cases heq
  · next hother _ _ => exact absurd rfl (hother tail)

lemma readString?_literal {tail : List Char} (h : runLength '\'' tail ≤ 1) :
    readString? ('\'' :: tail)
      = (readLiteral? tail).map fun (s, r) => (String.ofList s, r) := by
  unfold readString?
  simp only
  split
  · next heq => cases heq
  · next heq => cases heq
  · next heq =>
    cases heq
    simp [runLength_cons] at h
  · next heq =>
    cases heq
    rfl
  · next hother => exact absurd rfl (hother tail)

lemma readString?_basicLine (hrest : rest.head? ≠ some '"') :
    readString? (between "\"" (basicChars false 0 cs) ++ rest) = some (String.ofList cs, rest) := by
  have htext : between "\"" (basicChars false 0 cs) ++ rest
      = '"' :: (basicChars false 0 cs ++ '"' :: rest) := by
    rw [between, List.append_assoc, List.append_assoc]
    rfl
  have hone : runLength '"' (basicChars false 0 cs ++ '"' :: rest) ≤ 1 := by
    cases cs with
    | nil => exact Nat.le_of_eq (runLength_replicate_append 1 hrest)
    | cons c cs =>
        by_cases hquote : c = '"'
        · rw [hquote, basicChars_quote]
          exact Nat.zero_le 1
        · rw [basicChars_cons false 0 hquote, List.append_assoc,
            (escaped_basicChar false c).runLength_append hquote]
          exact Nat.zero_le 1
  have hfuel : cs.length < (basicChars false 0 cs ++ '"' :: rest).length + 1 := by
    have := length_le_basicChars false 0 cs
    rw [List.length_append]
    omega
  rw [htext, readString?_basic hone, readBasic?_basicChars hfuel]
  rfl

lemma readString?_literalLine (h : ∀ c ∈ cs, isPlain c ∧ c ≠ '\'')
    (hrest : rest.head? ≠ some '\'') :
    readString? (between "'" cs ++ rest) = some (String.ofList cs, rest) := by
  have htext : between "'" cs ++ rest = '\'' :: (cs ++ '\'' :: rest) := by
    rw [between, List.append_assoc, List.append_assoc]
    rfl
  have hone : runLength '\'' (cs ++ '\'' :: rest) ≤ 1 := by
    cases cs with
    | nil => exact Nat.le_of_eq (runLength_replicate_append 1 hrest)
    | cons c cs =>
        rw [List.cons_append, runLength_cons, if_neg (Ne.symm (h c List.mem_cons_self).2)]
        exact Nat.zero_le 1
  rw [htext, readString?_literal hone, readLiteral?_append h]
  rfl

/-- A string over several lines begins on a line of its own if its text has line ends. -/
lemma dropFirstNewline_of_flag {newline : Bool} {body : List Char}
    (h : newline = false → newline? body = none) :
    dropFirstNewline ((if newline then ['\n'] else []) ++ body) = body := by
  cases newline with
  | false =>
      change (newline? body).getD body = body
      rw [h rfl]
      rfl
  | true => rfl

lemma betweenLines_append (quote : String) (newline : Bool) (body : List Char) :
    betweenLines quote newline body ++ rest
      = quote.toList ++ ((if newline then ['\n'] else []) ++ (body ++ (quote.toList ++ rest))) := by
  cases newline <;> simp [betweenLines, between]

lemma readString?_basicLines {newline : Bool} (hline : newline = false → '\n' ∉ cs)
    (hrest : rest.head? ≠ some '"') :
    readString? (betweenLines "\"\"\"" newline (basicChars true 0 cs) ++ rest)
      = some (String.ofList cs, rest) := by
  have hfirst : newline = false →
      newline? (basicChars true 0 cs ++ '"' :: '"' :: '"' :: rest) = none := by
    intro hflag
    cases cs with
    | nil => rfl
    | cons c cs =>
        obtain ⟨body, next, -, hescaped, hbody⟩ := exists_basicChars_cons 0 c cs
        rw [hbody, List.append_assoc]
        cases hescaped with
        | escape => rfl
        | plain hc =>
            exact newline?_cons_of_ne (isPlain_ne_return hc).1 (isPlain_ne_return hc).2
        | lineEnd _ hc => exact absurd (hc ▸ List.mem_cons_self) (hline hflag)
  have hfuel (front : List Char) : cs.length <
      (front ++ (basicChars true 0 cs ++ '"' :: '"' :: '"' :: rest)).length + 1 := by
    have := length_le_basicChars true 0 cs
    rw [List.length_append, List.length_append]
    omega
  have htext (tail : List Char) : readString? ('"' :: '"' :: '"' :: tail)
      = (readBasicLines? (tail.length + 1) (dropFirstNewline tail)).map
        fun (s, r) => (String.ofList s, r) := rfl
  rw [betweenLines_append]
  refine (htext _).trans ?_
  change ((readBasicLines? (List.length (_ ++ (_ ++ '"' :: '"' :: '"' :: rest)) + 1)
    (dropFirstNewline (_ ++ (_ ++ '"' :: '"' :: '"' :: rest)))).map _) = _
  rw [dropFirstNewline_of_flag hfirst, readBasicLines?_basicChars (Nat.zero_le 2) (hfuel _) hrest]
  rfl

lemma readString?_literalLines {newline : Bool} (hline : newline = false → '\n' ∉ cs)
    (hplain : ∀ c ∈ cs, needsEscape c = false)
    (hruns : ∀ tail, tail <:+ cs → runLength '\'' tail ≤ 2) (hrest : rest.head? ≠ some '\'') :
    readString? (betweenLines "'''" newline cs ++ rest) = some (String.ofList cs, rest) := by
  have hfirst : newline = false → newline? (cs ++ '\'' :: '\'' :: '\'' :: rest) = none := by
    intro hflag
    cases cs with
    | nil => rfl
    | cons c cs =>
        have hc : c ≠ '\n' := fun hc => hline hflag (hc ▸ List.mem_cons_self)
        have hcplain := isPlain_of_not_needsEscape (hplain c List.mem_cons_self) hc
        exact newline?_cons_of_ne hc (isPlain_ne_return hcplain).2
  have hfuel (front : List Char) : cs.length <
      (front ++ (cs ++ '\'' :: '\'' :: '\'' :: rest)).length + 1 := by
    rw [List.length_append, List.length_append]
    omega
  have htext (tail : List Char) : readString? ('\'' :: '\'' :: '\'' :: tail)
      = (readLiteralLines? (tail.length + 1) (dropFirstNewline tail)).map
        fun (s, r) => (String.ofList s, r) := rfl
  rw [betweenLines_append]
  refine (htext _).trans ?_
  change ((readLiteralLines? (List.length (_ ++ (_ ++ '\'' :: '\'' :: '\'' :: rest)) + 1)
    (dropFirstNewline (_ ++ (_ ++ '\'' :: '\'' :: '\'' :: rest)))).map _) = _
  rw [dropFirstNewline_of_flag hfirst, readLiteralLines?_append hplain hruns (hfuel _) hrest]
  rfl

/-- **Every text is read from the string that it is written as**, unless more quotes follow. -/
theorem readString?_quoted (s : String) (hdouble : rest.head? ≠ some '"')
    (hsingle : rest.head? ≠ some '\'') : readString? (quoted s ++ rest) = some (s, rest) := by
  have hplain : s.toList.any needsEscape = false → ∀ c ∈ s.toList, needsEscape c = false := by
    intro h c hc
    simpa using List.any_eq_false.mp h c hc
  have hline : s.toList.contains '\n' = false → '\n' ∉ s.toList := by
    intro h hmem
    rw [List.contains_eq_mem, decide_eq_false_iff_not] at h
    exact h hmem
  have hbasic :
      readString? (between "\"" (basicChars false 0 s.toList) ++ rest) = some (s, rest) := by
    rw [readString?_basicLine hdouble, String.ofList_toList]
  have hbasicLines := readString?_basicLines hline hdouble
  rw [String.ofList_toList] at hbasicLines
  unfold quoted
  simp only
  split_ifs with _ hliteral _ hliteralLines
  · exact hbasic
  · simp only [Bool.and_eq_true, Bool.not_eq_true', beq_iff_eq] at hliteral
    obtain ⟨⟨hescapes, hsingles⟩, hnewline⟩ := hliteral
    have hall : ∀ c ∈ s.toList, isPlain c ∧ c ≠ '\'' := by
      intro c hc
      refine ⟨isPlain_of_not_needsEscape (hplain hescapes c hc) ?_, ?_⟩
      · rintro rfl
        exact hline hnewline hc
      · rintro rfl
        exact not_mem_of_longestRun hsingles hc
    rw [readString?_literalLine hall hsingle, String.ofList_toList]
  · exact hbasicLines
  · simp only [Bool.and_eq_true, Bool.not_eq_true', decide_eq_true_eq] at hliteralLines
    obtain ⟨hescapes, hsingles⟩ := hliteralLines
    rw [readString?_literalLines hline (hplain hescapes) (runLength_le_longestRun hsingles) hsingle,
      String.ofList_toList]
  · exact hbasicLines
  · exact hbasic

end ReviewStream.Toml
