import Mathlib.Data.List.TakeWhile
import Mathlib.Tactic.Lemma
import Mathlib.Tactic.SplitIfs
import ReviewStream.Proofs.Text.Digits
import ReviewStream.Proofs.Toml.Strings
import ReviewStream.Toml.Reader

/-!
# TOML keys and values that are read again

* `readKey?_keyText`: a key is read from what it is written as.
* `ofRun?_natDigits`: a natural number is read from its digits.
* `IsSimple`: texts, natural numbers in range, and arrays of both.
* **`readMember_lineText`**: the line of a member with a simple value is read as that member.
-/

namespace ReviewStream.Toml

open Json (Reading)

variable {c : Char} {cs rest : List Char} {fuel depth : Nat} {v : Toml}

/-! ## Blanks -/

/-- Whether a character is neither a blank nor the beginning of a line end or a comment. -/
def isSolid (c : Char) : Bool := !isSpace c && c != '\n' && c != '\r' && c != '#'

lemma isSolid_iff : isSolid c ↔ isSpace c = false ∧ c ≠ '\n' ∧ c ≠ '\r' ∧ c ≠ '#' := by
  simp [isSolid, and_assoc]

lemma skipSpace_of_isSolid (h : isSolid c) (cs : List Char) : skipSpace (c :: cs) = c :: cs :=
  skipSpace_cons_of_not (isSolid_iff.mp h).1

/-- Nothing but blanks is dropped before what is solid. -/
lemma skipBetween_of_skipSpace {tail : List Char} (h : skipSpace cs = c :: tail) (hc : isSolid c) :
    skipBetween cs = some (c :: tail) := by
  obtain ⟨-, hline, hreturn, hcomment⟩ := isSolid_iff.mp hc
  have hskip : skipComment (c :: tail) = some (c :: tail) := by
    rw [skipComment]
    rintro r ⟨⟩
    exact hcomment rfl
  rw [skipBetween, skipTrivia, h, hskip]
  simp only [newline?_cons_of_ne hline hreturn]

lemma skipBetween_of_isSolid (h : isSolid c) (cs : List Char) :
    skipBetween (c :: cs) = some (c :: cs) :=
  skipBetween_of_skipSpace (skipSpace_of_isSolid h cs) h

lemma skipBetween_newline (cs : List Char) : skipBetween ('\n' :: cs) = skipBetween cs := rfl

/-! ## Keys -/

lemma isSolid_of_isBare (h : isBare c) : isSolid c ∧ c ≠ '[' ∧ c ≠ '"' ∧ c ≠ '\'' := by
  have hne (d : Char) (hd : isBare d = false) : c ≠ d := by
    rintro rfl
    exact Bool.false_ne_true (hd.symm.trans h)
  refine ⟨isSolid_iff.mpr ⟨?_, hne '\n' rfl, hne '\r' rfl, hne '#' rfl⟩, hne '[' rfl, hne '"' rfl,
    hne '\'' rfl⟩
  rw [isSpace, beq_false_of_ne (hne ' ' rfl), beq_false_of_ne (hne '\t' rfl)]
  rfl

/-- What a key is written as begins with a bare character or a quote. -/
lemma exists_keyText (s : String) : ∃ c tail, keyText s = c :: tail ∧ isSolid c ∧ c ≠ '[' := by
  unfold keyText
  simp only
  split_ifs with hbare
  · rw [Bool.and_eq_true, List.all_eq_true] at hbare
    cases hs : s.toList with
    | nil => simp [hs] at hbare
    | cons c tail =>
        have hc := isSolid_of_isBare (hbare.2 c (hs ▸ List.mem_cons_self))
        exact ⟨c, tail, rfl, hc.1, hc.2.1⟩
  · exact ⟨'"', _, rfl, rfl, by decide⟩
  · exact ⟨'\'', _, rfl, rfl, by decide⟩
  · exact ⟨'"', _, rfl, rfl, by decide⟩

/-- Characters at which a bare key ends. -/
lemma takeWhile_isBare (h : cs.all isBare) (hrest : ∀ c, rest.head? = some c → isBare c = false) :
    (cs ++ rest).takeWhile isBare = cs ∧ (cs ++ rest).dropWhile isBare = rest := by
  have hall : ∀ c ∈ cs, isBare c = true := by simpa using h
  have hnone : rest.takeWhile isBare = [] ∧ rest.dropWhile isBare = rest := by
    cases rest with
    | nil => exact ⟨rfl, rfl⟩
    | cons c rest =>
        have hc : ¬ isBare c = true := by simp [hrest c rfl]
        exact ⟨List.takeWhile_cons_of_neg hc, List.dropWhile_cons_of_neg hc⟩
  rw [List.takeWhile_append_of_pos hall, List.dropWhile_append_of_pos hall, hnone.1, hnone.2,
    List.append_nil]
  exact ⟨rfl, rfl⟩

lemma readKeyPart?_bare (hne : cs ≠ []) (hall : cs.all isBare)
    (hrest : ∀ c, rest.head? = some c → isBare c = false) :
    readKeyPart? (cs ++ rest) = some (String.ofList cs, rest) := by
  obtain ⟨hfront, hback⟩ := takeWhile_isBare hall hrest
  cases cs with
  | nil => exact absurd rfl hne
  | cons c cs =>
      rw [List.all_cons, Bool.and_eq_true] at hall
      obtain ⟨-, -, hdouble, hsingle⟩ := isSolid_of_isBare hall.1
      rw [readKeyPart?]
      · simp only [hfront, hback]
        rfl
      · rintro r ⟨⟩
        exact hdouble rfl
      · rintro r ⟨⟩
        exact hsingle rfl

/-- A part of a key is read from what it is written as. -/
lemma readKeyPart?_keyText (s : String) (hrest : ∀ c, rest.head? = some c → isBare c = false) :
    readKeyPart? (keyText s ++ rest) = some (s, rest) := by
  have hbasic : readKeyPart? (between "\"" (basicChars false 0 s.toList) ++ rest)
      = some (s, rest) := by
    have hfuel : s.toList.length < (basicChars false 0 s.toList ++ '"' :: rest).length + 1 := by
      have := length_le_basicChars false 0 s.toList
      rw [List.length_append]
      omega
    have htext : between "\"" (basicChars false 0 s.toList) ++ rest
        = '"' :: (basicChars false 0 s.toList ++ '"' :: rest) := by
      rw [between, List.append_assoc, List.append_assoc]
      rfl
    rw [htext, readKeyPart?, readBasic?_basicChars hfuel]
    exact congrArg (fun t => some (t, rest)) String.ofList_toList
  unfold keyText
  simp only
  split_ifs with hbare _ hliteral
  · rw [Bool.and_eq_true, Bool.not_eq_true'] at hbare
    have hne : s.toList ≠ [] := by
      rw [← List.isEmpty_eq_false_iff]
      exact hbare.1
    rw [readKeyPart?_bare hne hbare.2 hrest, String.ofList_toList]
  · exact hbasic
  · simp only [Bool.and_eq_true, Bool.not_eq_true', Bool.or_eq_false_iff] at hliteral
    obtain ⟨⟨hescapes, hnewline⟩, hsingle⟩ := hliteral
    have hplain : ∀ c ∈ s.toList, isPlain c ∧ c ≠ '\'' := by
      intro c hc
      have hescape : needsEscape c = false := by simpa using List.any_eq_false.mp hescapes c hc
      refine ⟨isPlain_of_not_needsEscape hescape ?_, ?_⟩
      · rintro rfl
        simp [hc] at hnewline
      · rintro rfl
        simp [hc] at hsingle
    have htext : between "'" s.toList ++ rest = '\'' :: (s.toList ++ '\'' :: rest) := by
      rw [between, List.append_assoc, List.append_assoc]
      rfl
    rw [htext, readKeyPart?, readLiteral?_append hplain]
    exact congrArg (fun t => some (t, rest)) String.ofList_toList
  · exact hbasic

lemma skipSpace_keyText (s : String) (rest : List Char) :
    skipSpace (keyText s ++ rest) = keyText s ++ rest := by
  obtain ⟨c, tail, hkey, hsolid, -⟩ := exists_keyText s
  rw [hkey, List.cons_append, skipSpace_of_isSolid hsolid]

/-- A key with blanks behind it is read if no further part follows. -/
lemma readKey?_keyText (s : String) (hrest : ∀ c, rest.head? = some c → isBare c = false)
    (hlast : (skipSpace rest).head? ≠ some '.') :
    readKey? (fuel + 1) (keyText s ++ rest) = some ([s], skipSpace rest) := by
  rw [readKey?, skipSpace_keyText, readKeyPart?_keyText s hrest]
  simp only
  split
  · next h => exact absurd (by rw [h]; rfl) hlast
  · rfl

/-- A dotted key is read up to what is no part of a key. -/
lemma readKey?_pathText {path : List String} (hne : path ≠ []) (hfuel : path.length ≤ fuel)
    (hspace : skipSpace rest = rest) (hrest : ∀ c, rest.head? = some c → isBare c = false)
    (hlast : rest.head? ≠ some '.') :
    readKey? fuel (pathText path ++ rest) = some (path, rest) := by
  induction path generalizing fuel with
  | nil => exact absurd rfl hne
  | cons s path ih =>
      obtain ⟨fuel, rfl⟩ := Nat.exists_eq_add_one_of_ne_zero (Nat.ne_zero_of_lt hfuel)
      cases path with
      | nil =>
          have htext : pathText [s] = keyText s := by simp [pathText, List.intercalate]
          rw [htext, readKey?_keyText s hrest (by rwa [hspace]), hspace]
      | cons t path =>
          have htext : pathText (s :: t :: path) ++ rest
              = keyText s ++ '.' :: (pathText (t :: path) ++ rest) := by
            simp [pathText, List.intercalate]
          have hdot : ∀ c, ('.' :: (pathText (t :: path) ++ rest)).head? = some c
              → isBare c = false := by
            rintro c ⟨⟩
            rfl
          have hread := ih (List.cons_ne_nil _ _) (Nat.le_of_succ_le_succ hfuel)
          rw [htext, readKey?, skipSpace_keyText, readKeyPart?_keyText s hdot]
          change (readKey? fuel (pathText (t :: path) ++ rest)).map _ = _
          rw [hread]
          rfl

/-! ## Numbers -/

/-- What follows a value: an end of a line, a comma or a bracket. -/
def EndsValue (rest : List Char) : Prop :=
  ∀ c, rest.head? = some c → c = '\n' ∨ c = ',' ∨ c = ']'

lemma EndsValue.head?_ne (h : EndsValue rest) (hc : c ≠ '\n' ∧ c ≠ ',' ∧ c ≠ ']') :
    rest.head? ≠ some c := by
  intro hhead
  rcases h c hhead with rfl | rfl | rfl
  · exact hc.1 rfl
  · exact hc.2.1 rfl
  · exact hc.2.2 rfl

lemma EndsValue.isRunChar (h : EndsValue rest) (c : Char) (hc : rest.head? = some c) :
    isRunChar c = false := by
  rcases h c hc with rfl | rfl | rfl <;> rfl

lemma mark?_of_isDigit (h : ∀ d ∈ cs, d.isDigit) (hc : c.isDigit = false) : mark? c cs = none := by
  cases cs with
  | nil => rfl
  | cons d cs =>
      rw [mark?, if_neg]
      rintro rfl
      have hd : c.isDigit = true := h c List.mem_cons_self
      rw [hc] at hd
      cases hd

/-- What is left of digits is digits. -/
lemma isDigit_of_fixedDigits? {count n : Nat} (h : ∀ d ∈ cs, d.isDigit)
    (hfixed : fixedDigits? count cs = some (n, rest)) : ∀ d ∈ rest, d.isDigit := by
  rw [fixedDigits?] at hfixed
  split_ifs at hfixed
  cases hfixed
  exact fun d hd => h d (List.mem_of_mem_drop hd)

/-- Digits are no date and no time. -/
lemma isMoment_of_isDigit (h : ∀ d ∈ cs, d.isDigit) : date? cs = none ∧ isMoment cs = false := by
  have hdate : date? cs = none := by
    rw [date?]
    cases hfixed : fixedDigits? 4 cs with
    | none => rfl
    | some p =>
        have hmark : mark? '-' p.2 = none :=
          mark?_of_isDigit (isDigit_of_fixedDigits? h hfixed) rfl
        simp only [bind, Option.bind, hmark]
  have htime : time? cs = none := by
    rw [time?]
    cases hfixed : fixedDigits? 2 cs with
    | none => rfl
    | some p =>
        have hmark : mark? ':' p.2 = none :=
          mark?_of_isDigit (isDigit_of_fixedDigits? h hfixed) rfl
        simp only [bind, Option.bind, hmark]
  refine ⟨hdate, ?_⟩
  rw [isMoment, hdate, htime]

lemma isRunChar_of_isDigit (h : c.isDigit) : isRunChar c := by
  simp [isRunChar, Char.isAlphanum, h]

/-- A run of digits ends where the value ends. -/
lemma takeRun_digits (h : ∀ d ∈ cs, d.isDigit) (hrest : EndsValue rest) :
    takeRun (cs ++ rest) = (cs, rest) := by
  have hall : ∀ d ∈ cs, isRunChar d = true := fun d hd => isRunChar_of_isDigit (h d hd)
  have hnone : rest.takeWhile isRunChar = [] ∧ rest.dropWhile isRunChar = rest := by
    cases rest with
    | nil => exact ⟨rfl, rfl⟩
    | cons c rest =>
        have hc : ¬ isRunChar c = true := by simp [hrest.isRunChar c rfl]
        exact ⟨List.takeWhile_cons_of_neg hc, List.dropWhile_cons_of_neg hc⟩
  simp only [takeRun, List.takeWhile_append_of_pos hall, List.dropWhile_append_of_pos hall,
    hnone.1, hnone.2, List.append_nil, (isMoment_of_isDigit h).1]

lemma hexValue?_of_isDigit (h : c.isDigit) :
    (Json.hexValue? c).getD 0 = c.toNat - '0'.toNat := by
  rw [Char.isDigit, Bool.and_eq_true, decide_eq_true_eq, decide_eq_true_eq] at h
  have hrange : '0' ≤ c ∧ c ≤ '9' := h
  rw [Json.hexValue?, if_pos hrange, Option.getD_some]

lemma isDigit_ne (h : c.isDigit) {d : Char} (hd : d.isDigit = false) : c ≠ d := by
  rintro rfl
  exact Bool.false_ne_true (hd.symm.trans h)

lemma numberOf_digits (h : ∀ d ∈ cs, d.isDigit) : numberOf 10 cs = Nat.ofDigitChars 10 cs 0 := by
  have hfilter : cs.filter (· != '_') = cs := by
    refine List.filter_eq_self.mpr fun d hd => ?_
    simpa using isDigit_ne (h d hd) (d := '_') rfl
  rw [numberOf, hfilter]
  exact Text.foldl_digits (fun d hd => hexValue?_of_isDigit (h d hd)) 0

lemma splitAll_of_notMem (h : c ∉ cs) : Text.splitAll c cs = [cs] := by
  induction cs with
  | nil => rfl
  | cons d cs ih =>
      rw [List.mem_cons, not_or] at h
      rw [Text.splitAll, if_neg (Ne.symm h.1), ih h.2]

/-- The digits of a number have no superfluous zero in front. -/
lemma isDecimal_natDigits (n : Nat) : isDecimal (Text.natDigits n) = true := by
  have hall : ∀ d ∈ Text.natDigits n, d.isDigit := fun d hd => Text.isDigit_of_mem_natDigits hd
  have hmem : '_' ∉ Text.natDigits n := fun hd => isDigit_ne (hall _ hd) (d := '_') rfl rfl
  have hrun : isDigitRun Char.isDigit (Text.natDigits n) = true := by
    have hne : (Text.natDigits n).isEmpty = false :=
      List.isEmpty_eq_false_iff.mpr Nat.toDigits_ne_nil
    rw [isDigitRun, splitAll_of_notMem hmem, List.all_cons, hne, List.all_eq_true.mpr hall]
    rfl
  rw [isDecimal, hrun, Bool.true_and]
  cases n with
  | zero => rfl
  | succ n =>
      have hhead := Text.head?_natDigits (Nat.succ_pos n)
      rw [bne_iff_ne.mpr hhead, Bool.or_true]

lemma cutSign_of_isDigit (h : ∀ d ∈ cs, d.isDigit) : cutSign cs = (false, cs) := by
  cases cs with
  | nil => rfl
  | cons c cs =>
      have hc := h c List.mem_cons_self
      rw [cutSign]
      · rintro r ⟨⟩
        cases hc
      · rintro r ⟨⟩
        cases hc

lemma ofIntegerRun?_digits (h : ∀ d ∈ cs, d.isDigit) (hdecimal : isDecimal cs) :
    ofIntegerRun? cs = integer? (Nat.ofDigitChars 10 cs 0 : Nat) := by
  unfold ofIntegerRun?
  split
  · cases h 'x' (by simp)
  · cases h 'o' (by simp)
  · cases h 'b' (by simp)
  · simp only [cutSign_of_isDigit h, hdecimal, if_true, numberOf_digits h]
    rfl

lemma ofRun?_natDigits {n : Nat} (hn : (n : Int) ≤ Int64.maxValue.toInt) :
    ofRun? (Text.natDigits n) = some (.integer n) := by
  have hall : ∀ d ∈ Text.natDigits n, d.isDigit := fun d hd => Text.isDigit_of_mem_natDigits hd
  have htrue : Text.natDigits n ≠ "true".toList := by
    intro h
    cases hall 't' (by rw [h]; decide)
  have hfalse : Text.natDigits n ≠ "false".toList := by
    intro h
    cases hall 'f' (by rw [h]; decide)
  have hrange : Int64.minValue.toInt ≤ (n : Int) ∧ (n : Int) ≤ Int64.maxValue.toInt := by
    refine ⟨?_, hn⟩
    have hmin : Int64.minValue.toInt ≤ 0 := by decide
    omega
  rw [ofRun?, if_neg htrue, if_neg hfalse, (isMoment_of_isDigit hall).2,
    ofIntegerRun?_digits hall (isDecimal_natDigits n), Text.ofDigitChars_natDigits, integer?,
    if_pos hrange]
  rfl

/-! ## Values -/

/-- Texts and natural numbers that fit into a TOML integer. -/
inductive IsScalar : Toml → Prop where
  | text (s : String) : IsScalar (.text s)
  | integer (n : Nat) (hn : (n : Int) ≤ Int64.maxValue.toInt) : IsScalar (.integer n)

lemma exists_quoted (s : String) : ∃ c tail, quoted s = c :: tail ∧ (c = '"' ∨ c = '\'') := by
  unfold quoted
  simp only
  split_ifs
  · exact ⟨'"', _, rfl, .inl rfl⟩
  · exact ⟨'\'', _, rfl, .inr rfl⟩
  · exact ⟨'"', _, rfl, .inl rfl⟩
  · exact ⟨'\'', _, rfl, .inr rfl⟩
  · exact ⟨'"', _, rfl, .inl rfl⟩
  · exact ⟨'"', _, rfl, .inl rfl⟩

lemma inlineText_integer (n : Nat) : inlineText (.integer n) = Text.natDigits n := by
  rw [inlineText]
  exact String.toList_ofList

lemma exists_natDigits (n : Nat) : ∃ c tail, Text.natDigits n = c :: tail ∧ c.isDigit := by
  cases hdigits : Text.natDigits n with
  | nil => exact absurd hdigits Nat.toDigits_ne_nil
  | cons c tail =>
      exact ⟨c, tail, rfl, Text.isDigit_of_mem_natDigits (hdigits ▸ List.mem_cons_self)⟩

/-- What a scalar is written as is solid in front, and no bracket. -/
lemma IsScalar.exists_inlineText (h : IsScalar v) :
    ∃ c tail, inlineText v = c :: tail ∧ isSolid c ∧ c ≠ ']' := by
  cases h with
  | text s =>
      obtain ⟨c, tail, hquoted, hc⟩ := exists_quoted s
      refine ⟨c, tail, by rw [inlineText, hquoted], ?_⟩
      rcases hc with rfl | rfl <;> decide
  | integer n =>
      obtain ⟨c, tail, hdigits, hc⟩ := exists_natDigits n
      refine ⟨c, tail, by rw [inlineText_integer, hdigits], ?_, isDigit_ne hc rfl⟩
      refine (isSolid_of_isBare ?_).1
      simp [isBare, Char.isAlphanum, hc]

/-- A scalar is read from what it is written as. -/
lemma readValue_scalar (h : IsScalar v) (hrest : EndsValue rest) :
    readValue (depth + 1) (inlineText v ++ rest) = some (v, rest) := by
  cases h with
  | text s =>
      have hread := readString?_quoted s (hrest.head?_ne (c := '"') (by decide))
        (hrest.head?_ne (c := '\'') (by decide))
      obtain ⟨c, tail, hquoted, hc⟩ := exists_quoted s
      rw [inlineText]
      rw [hquoted, List.cons_append] at hread ⊢
      rcases hc with rfl | rfl
      · rw [readValue, hread]
        rfl
      · rw [readValue, hread]
        rfl
  | integer n hn =>
      have hall : ∀ d ∈ Text.natDigits n, d.isDigit := fun d hd => Text.isDigit_of_mem_natDigits hd
      have hrun := takeRun_digits hall hrest
      obtain ⟨c, tail, hdigits, hc⟩ := exists_natDigits n
      rw [inlineText_integer]
      rw [readValue, hrun]
      · simp only [ofRun?_natDigits hn]
        rfl
      all_goals
        intro r hr
        rw [hdigits] at hr
        cases hr
        cases hc

/-! ## Arrays -/

/-- An item before a bracket is the last one, and one before a comma is not. -/
lemma readItems_item {value : List Char → Reading Toml} {later tail : List Char} (h : IsScalar v)
    (hfront : skipBetween cs = some (inlineText v ++ later))
    (hvalue : value (inlineText v ++ later) = some (v, later)) :
    (skipBetween later = some (']' :: tail) →
      readItems value (fuel + 1) cs = some ([v], tail)) ∧
    ∀ vs r, skipBetween later = some (',' :: tail) → readItems value fuel tail = some (vs, r) →
      readItems value (fuel + 1) cs = some (v :: vs, r) := by
  obtain ⟨c, text, htext, -, hbracket⟩ := h.exists_inlineText
  rw [htext, List.cons_append] at hfront hvalue
  rw [readItems, hfront]
  split
  · next heq => cases heq
  · next heq =>
    cases heq
    exact absurd rfl hbracket
  · next heq =>
    cases heq
    refine ⟨fun hlast => ?_, fun vs r hmore hrest => ?_⟩
    · simp only [hvalue, hlast]
    · simp only [hvalue, hmore, hrest, Option.map_some]

/-- Line ends and blanks are dropped before a scalar. -/
lemma skipBetween_inlineText (h : IsScalar v) (later : List Char) :
    skipBetween (inlineText v ++ later) = some (inlineText v ++ later) ∧
    skipBetween ("\n    ".toList ++ inlineText v ++ later) = some (inlineText v ++ later) := by
  obtain ⟨c, tail, htext, hsolid, -⟩ := h.exists_inlineText
  rw [htext, List.append_assoc]
  refine ⟨skipBetween_of_isSolid hsolid _, ?_⟩
  have hblanks :
      skipSpace (' ' :: ' ' :: ' ' :: ' ' :: c :: (tail ++ later)) = c :: (tail ++ later) :=
    skipSpace_of_isSolid hsolid _
  exact (skipBetween_newline _).trans (skipBetween_of_skipSpace hblanks hsolid)

lemma itemLines_nil : itemLines [] = [] := rfl

lemma itemLines_cons (v : Toml) (vs : List Toml) :
    itemLines (v :: vs) = "\n    ".toList ++ inlineText v ++ [','] ++ itemLines vs := rfl

/-- Items on lines of their own are read up to the closing bracket. -/
lemma readItems_itemLines {value : List Char → Reading Toml} {items : List Toml}
    (hscalar : ∀ v ∈ items, IsScalar v)
    (hvalue : ∀ v rest, IsScalar v → EndsValue rest → value (inlineText v ++ rest) = some (v, rest))
    (hfuel : items.length < fuel) :
    readItems value fuel (itemLines items ++ '\n' :: ']' :: rest) = some (items, rest) := by
  induction items generalizing fuel with
  | nil =>
      obtain ⟨fuel, rfl⟩ := Nat.exists_eq_add_one_of_ne_zero (Nat.ne_zero_of_lt hfuel)
      rw [itemLines_nil, List.nil_append, readItems, skipBetween_newline,
        skipBetween_of_isSolid rfl]
      rfl
  | cons v vs ih =>
      obtain ⟨fuel, rfl⟩ := Nat.exists_eq_add_one_of_ne_zero (Nat.ne_zero_of_lt hfuel)
      have hv : IsScalar v := hscalar v List.mem_cons_self
      have hrest := ih (fun w hw => hscalar w (List.mem_cons_of_mem _ hw))
        (Nat.lt_of_succ_lt_succ hfuel)
      have hends : EndsValue (',' :: (itemLines vs ++ '\n' :: ']' :: rest)) := by
        rintro c ⟨⟩
        exact .inr (.inl rfl)
      have hcomma := skipBetween_of_isSolid (c := ',') rfl (itemLines vs ++ '\n' :: ']' :: rest)
      have htext : itemLines (v :: vs) ++ '\n' :: ']' :: rest
          = "\n    ".toList ++ inlineText v ++ ',' :: (itemLines vs ++ '\n' :: ']' :: rest) := by
        rw [itemLines_cons, List.append_assoc, List.append_assoc, List.singleton_append]
      have hfront := (skipBetween_inlineText hv (',' :: (itemLines vs ++ '\n' :: ']' :: rest))).2
      rw [htext]
      exact (readItems_item hv hfront (hvalue v _ hv hends)).2 vs rest hcomma hrest

/-- The values that settings are made of: scalars and arrays of scalars. -/
inductive IsSimple : Toml → Prop where
  | scalar {v : Toml} (h : IsScalar v) : IsSimple v
  | array {items : List Toml} (h : ∀ v ∈ items, IsScalar v) : IsSimple (.array items)

lemma IsSimple.exists_inlineText (h : IsSimple v) :
    ∃ c tail, inlineText v = c :: tail ∧ isSolid c := by
  cases h with
  | scalar h =>
      obtain ⟨c, tail, htext, hsolid, -⟩ := h.exists_inlineText
      exact ⟨c, tail, htext, hsolid⟩
  | @array items _ =>
      rcases items with _ | ⟨w, _ | ⟨x, items⟩⟩
      · exact ⟨'[', _, by rw [inlineText]; rfl, rfl⟩
      · exact ⟨'[', _, by rw [inlineText], rfl⟩
      · refine ⟨'[', itemLines (w :: x :: items) ++ ['\n', ']'], ?_, rfl⟩
        rw [inlineText]
        · rfl
        · rintro ⟨⟩
        · rintro v ⟨⟩

lemma length_le_itemLines (items : List Toml) : items.length ≤ (itemLines items).length := by
  induction items with
  | nil => exact Nat.le_refl 0
  | cons v vs ih =>
      rw [itemLines_cons, List.length_append, List.length_append, List.length_cons]
      simp only [List.length_cons, List.length_nil]
      omega

lemma readValue_bracket (depth : Nat) (text : List Char) : readValue (depth + 1) ('[' :: text)
    = (readItems (readValue depth) (text.length + 1) text).map fun (vs, r) => (.array vs, r) :=
  rfl

/-- A simple value is read from what it is written as. -/
lemma readValue_inlineText (h : IsSimple v) (hrest : EndsValue rest) :
    readValue (depth + 2) (inlineText v ++ rest) = some (v, rest) := by
  cases h with
  | scalar h => exact readValue_scalar h hrest
  | array h =>
      rename_i items
      have hread (w : Toml) (later : List Char) (hw : IsScalar w) (hlater : EndsValue later) :
          readValue (depth + 1) (inlineText w ++ later) = some (w, later) :=
        readValue_scalar hw hlater
      have hbracket : skipBetween (']' :: rest) = some (']' :: rest) :=
        skipBetween_of_isSolid rfl rest
      rcases items with _ | ⟨w, _ | ⟨x, items⟩⟩
      · have htext : inlineText (.array []) ++ rest = '[' :: ']' :: rest := by
          rw [inlineText]
          rfl
        rw [htext, readValue_bracket, readItems, hbracket]
        rfl
      · have hw : IsScalar w := h w List.mem_cons_self
        have hends : EndsValue (']' :: rest) := by
          rintro c ⟨⟩
          exact .inr (.inr rfl)
        have htext : inlineText (.array [w]) ++ rest = '[' :: (inlineText w ++ ']' :: rest) := by
          rw [inlineText, List.cons_append, List.append_assoc]
          rfl
        have hfront := (skipBetween_inlineText hw (']' :: rest)).1
        rw [htext, readValue_bracket, (readItems_item hw hfront (hread w _ hw hends)).1 hbracket]
        rfl
      · have htext : inlineText (.array (w :: x :: items)) ++ rest
            = '[' :: (itemLines (w :: x :: items) ++ '\n' :: ']' :: rest) := by
          rw [inlineText, List.cons_append, List.append_assoc]
          · rfl
          · rintro ⟨⟩
          · rintro v ⟨⟩
        rw [htext, readValue_bracket, readItems_itemLines h hread]
        · rfl
        · have := length_le_itemLines (w :: x :: items)
          rw [List.length_append]
          omega

/-! ## Members -/

/-- The line of a member. -/
def lineText (key : String) (v : Toml) : List Char :=
  keyText key ++ " = ".toList ++ inlineText v ++ ['\n']

/-- A member with a simple value is read from its line, up to the line end. -/
theorem readMember_lineText (key : String) (h : IsSimple v) (rest : List Char) :
    readMember (readValue depthLimit) (lineText key v ++ rest)
      = some (([key], v), '\n' :: rest) := by
  have hends : EndsValue ('\n' :: rest) := by
    rintro c ⟨⟩
    exact .inl rfl
  have htext : lineText key v ++ rest
      = keyText key ++ ' ' :: '=' :: ' ' :: (inlineText v ++ '\n' :: rest) := by
    simp only [lineText, List.append_assoc]
    rfl
  have hspace : ∀ c, (' ' :: '=' :: ' ' :: (inlineText v ++ '\n' :: rest)).head? = some c
      → isBare c = false := by
    rintro c ⟨⟩
    rfl
  have hequals : skipSpace (' ' :: '=' :: ' ' :: (inlineText v ++ '\n' :: rest))
      = '=' :: ' ' :: (inlineText v ++ '\n' :: rest) := rfl
  have hvalue :
      skipSpace (' ' :: (inlineText v ++ '\n' :: rest)) = inlineText v ++ '\n' :: rest := by
    obtain ⟨c, tail, hfront, hsolid⟩ := h.exists_inlineText
    rw [hfront]
    exact skipSpace_of_isSolid hsolid _
  rw [readMember, htext, readKey?_keyText key hspace (by rw [hequals]; simp), hequals]
  have hread : readValue depthLimit (inlineText v ++ '\n' :: rest) = some (v, '\n' :: rest) :=
    readValue_inlineText h hends
  simp only [hvalue, hread]
  rfl

end ReviewStream.Toml
