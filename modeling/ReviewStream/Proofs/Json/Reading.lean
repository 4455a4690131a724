import Mathlib.Tactic.Lemma
import Mathlib.Tactic.SplitIfs
import ReviewStream.Json.Reader
import ReviewStream.Json.Writer

/-!
# What reading leaves

A reader takes something off the front of a text and leaves the rest of it.

* **`readString_flatMap_escape`**: a string that was written is read again.
* **`readValue_suffix`**: what follows a value is an end of the text.
-/

namespace ReviewStream.Json

variable {α : Type} {cs rest : List Char}

lemma skip_suffix (cs : List Char) : skip cs <:+ cs := List.dropWhile_suffix _

/-! ## Strings -/

lemma readString_cons {c : Char} (hquote : c ≠ '"') (hslash : c ≠ '\\') (cs : List Char) :
    readString (c :: cs)
      = if c.toNat < 0x20 then none else (readString cs).map fun (s, r) => (c :: s, r) := by
  rw [readString] <;> simp_all

/-- The four digits of a control character are read as that character. -/
lemma hexUnit?_hexDigit : ∀ n < 0x20,
    hexUnit? '0' '0' (hexDigit (n / 16)) (hexDigit n) = some n := by
  decide

/-- What is written for a character is read as that character. -/
lemma readString_escape (c : Char) (cs : List Char) :
    readString (escape c ++ cs) = (readString cs).map fun (s, r) => (c :: s, r) := by
  unfold escape
  split
  case h_8 hquote hslash _ _ _ _ _ =>
    split_ifs with hcontrol
    · have hunit := hexUnit?_hexDigit c.toNat hcontrol
      simp only [List.cons_append, List.nil_append, readString, hunit]
      rw [if_pos (.inl (by omega)), Char.ofNat_toNat]
    · rw [List.singleton_append, readString_cons hquote hslash, if_neg hcontrol]
  all_goals rfl

/-- **A string that was written is read again.** -/
theorem readString_flatMap_escape (s after : List Char) :
    readString (s.flatMap escape ++ '"' :: after) = some (s, after) := by
  induction s with
  | nil => rfl
  | cons c s ih => rw [List.flatMap_cons, List.append_assoc, readString_escape, ih]; rfl

/-- A string ends at a quote. -/
lemma readString_suffix {s : List Char} (h : readString cs = some (s, rest)) :
    '"' :: rest <:+ cs := by
  fun_induction readString cs generalizing s rest
  case case2 =>
    cases h
    exact List.suffix_rfl
  all_goals try cases h
  -- What is left is read after an escape or a character.
  all_goals
    rename_i ih
    obtain ⟨⟨inner, after⟩, hinner, hresult⟩ := Option.map_eq_some_iff.mp h
    cases hresult
    have hsuffix := ih hinner
    repeat first
      | exact hsuffix
      | refine List.IsSuffix.trans ?_ (List.suffix_cons _ _)

/-! ## Numbers -/

lemma takeDigits_suffix (significand taken : Nat) (cs : List Char) :
    (takeDigits significand taken cs).2.2 <:+ cs := by
  fun_induction takeDigits significand taken cs with
  | case4 _ _ c cs d _ _ ih => exact ih.trans (List.suffix_cons _ _)
  | _ => exact List.suffix_rfl

lemma spanDigits_suffix (cs : List Char) : (spanDigits cs).2 <:+ cs := List.dropWhile_suffix _

lemma readExponent_suffix {e : Int} (h : readExponent cs = some (e, rest)) : rest <:+ cs := by
  unfold readExponent at h
  split at h
  next sign tail hsign =>
    have htail : tail <:+ cs := by
      split at hsign <;> cases hsign
      · exact List.suffix_cons _ _
      · exact List.suffix_cons _ _
      · exact List.suffix_rfl
    split at h
    · cases h
    · next hspan =>
      cases h
      exact (hspan ▸ spanDigits_suffix tail).trans htail

lemma suffix_of_scaled {negative : Bool} {significand : Nat} {n : Number}
    (scaled : Reading Int)
    (hread : (match scaled with
      | none => none
      | some (exponent, rest) => (Binary64.ofDecimal? significand exponent).map fun x =>
        (Number.real (if negative then x.negate else x), rest)) = some (n, rest))
    (hscaled : ∀ e tail, scaled = some (e, tail) → tail <:+ cs) : rest <:+ cs := by
  cases scaled with
  | none => cases hread
  | some scaled =>
      obtain ⟨x, -, hresult⟩ := Option.map_eq_some_iff.mp hread
      cases hresult
      exact hscaled _ _ rfl

lemma suffix_of_exponent {exponent : Int} {c : Char} {digits : List Char} (h : cs = c :: digits) :
    ∀ e tail, (readExponent digits).map (fun (e, rest) => (exponent + e, rest)) = some (e, tail) →
      tail <:+ cs := by
  subst h
  intro e tail hread
  obtain ⟨read, hdigits, hpair⟩ := Option.map_eq_some_iff.mp hread
  cases hpair
  exact (readExponent_suffix hdigits).trans (List.suffix_cons _ _)

lemma readScaled_suffix {negative : Bool} {significand : Nat} {exponent : Int} {n : Number}
    (h : readScaled negative significand exponent cs = some (n, rest)) : rest <:+ cs := by
  unfold readScaled at h
  split at h
  · exact suffix_of_scaled _ h (suffix_of_exponent rfl)
  · exact suffix_of_scaled _ h (suffix_of_exponent rfl)
  · refine suffix_of_scaled (some (exponent, cs)) h ?_
    rintro e tail ⟨⟩
    exact List.suffix_rfl

lemma readFraction_suffix {negative : Bool} {significand : Nat} {exponent : Int} {n : Number}
    (h : readFraction negative significand exponent cs = some (n, rest)) : rest <:+ cs := by
  rw [readFraction] at h
  split_ifs at h
  exact (readScaled_suffix h).trans ((spanDigits_suffix _).trans (takeDigits_suffix _ _ _))

lemma readMagnitude_suffix {negative : Bool} {n : Number}
    (h : readMagnitude negative cs = some (n, rest)) : rest <:+ cs := by
  unfold readMagnitude at h
  split at h
  · cases h
  · cases h
  have hdigits : (spanDigits (takeDigits 0 0 cs).2.2).2 <:+ cs :=
    (spanDigits_suffix _).trans (takeDigits_suffix _ _ _)
  dsimp only at h
  split at h
  next hpoint =>
    rw [hpoint] at hdigits
    exact (readFraction_suffix h).trans ((List.suffix_cons _ _).trans hdigits)
  next hletter =>
    rw [hletter] at hdigits
    exact (readScaled_suffix h).trans hdigits
  next hletter =>
    rw [hletter] at hdigits
    exact (readScaled_suffix h).trans hdigits
  next =>
    split_ifs at h
    · exact (readScaled_suffix h).trans hdigits
    all_goals
      cases h
      exact hdigits

lemma readNumber_suffix {n : Number} (h : readNumber cs = some (n, rest)) : rest <:+ cs := by
  rw [readNumber.eq_def] at h
  split at h
  · exact (readMagnitude_suffix h).trans (List.suffix_cons _ _)
  · exact readMagnitude_suffix h

/-! ## Lists and objects -/

lemma readItems_suffix {value : List Char → Reading Json} {fuel : Nat} {vs : List Json}
    (hvalue : ∀ {cs v rest}, value cs = some (v, rest) → rest <:+ cs)
    (h : readItems value fuel cs = some (vs, rest)) : rest <:+ cs := by
  induction fuel generalizing cs vs with
  | zero => cases h
  | succ fuel ih =>
      rw [readItems] at h
      split at h
      next => cases h
      next v after hv =>
        have hbehind : skip after <:+ cs := (skip_suffix after).trans (hvalue hv)
        split at h
        next hclose =>
          cases h
          exact ((List.suffix_cons _ _).trans (hclose ▸ hbehind))
        next hcomma =>
          obtain ⟨⟨later, last⟩, hlater, hresult⟩ := Option.map_eq_some_iff.mp h
          cases hresult
          exact (ih hlater).trans ((List.suffix_cons _ _).trans (hcomma ▸ hbehind))
        next => cases h

/-- A key is followed by a colon. -/
lemma readKey_suffix {key : String} (h : readKey cs = some (key, rest)) : ':' :: rest <:+ cs := by
  rw [readKey] at h
  split at h
  next inside hopen =>
    split at h
    next => cases h
    next s after hs =>
      split at h
      next hcolon =>
        cases h
        have hinside : '"' :: inside <:+ cs := hopen ▸ skip_suffix cs
        have hkey : '"' :: after <:+ inside := readString_suffix hs
        have hcolon : ':' :: rest <:+ after := hcolon ▸ skip_suffix after
        have hafter : after <:+ inside := (List.suffix_cons _ _).trans hkey
        exact hcolon.trans (hafter.trans ((List.suffix_cons _ _).trans hinside))
      next => cases h
  next => cases h

section

variable {value : List Char → Reading α} {members : List (String × α)}

lemma readMembers_suffix {fuel : Nat}
    (hvalue : ∀ {cs a rest}, value cs = some (a, rest) → rest <:+ cs)
    (h : readMembers value fuel cs = some (members, rest)) : rest <:+ cs := by
  induction fuel generalizing cs members with
  | zero => cases h
  | succ fuel ih =>
      rw [readMembers] at h
      split at h
      next => cases h
      next key place hkey =>
        have hplace : place <:+ cs := (List.suffix_cons _ _).trans (readKey_suffix hkey)
        split at h
        next => cases h
        next a after ha =>
          have hbehind : skip after <:+ cs :=
            (skip_suffix after).trans ((hvalue ha).trans hplace)
          split at h
          next hclose =>
            cases h
            exact (List.suffix_cons _ _).trans (hclose ▸ hbehind)
          next hcomma =>
            obtain ⟨⟨later, last⟩, hlater, hresult⟩ := Option.map_eq_some_iff.mp h
            cases hresult
            exact (ih hlater).trans ((List.suffix_cons _ _).trans (hcomma ▸ hbehind))
          next => cases h

/-- The values of members are read somewhere in the text, each behind a colon. -/
lemma exists_of_mem_readMembers {fuel : Nat}
    (hvalue : ∀ {cs a rest}, value cs = some (a, rest) → rest <:+ cs)
    (h : readMembers value fuel cs = some (members, rest)) :
    ∀ member ∈ members, ∃ place after, value place = some (member.2, after)
      ∧ ':' :: place <:+ cs := by
  induction fuel generalizing cs rest members with
  | zero => cases h
  | succ fuel ih =>
      rw [readMembers] at h
      split at h
      next => cases h
      next key place hkey =>
        have hcolon : ':' :: place <:+ cs := readKey_suffix hkey
        split at h
        next => cases h
        next a after ha =>
          split at h
          next =>
            cases h
            intro member hmember
            obtain rfl := List.mem_singleton.mp hmember
            exact ⟨place, after, ha, hcolon⟩
          next behind hcomma =>
            have hbehind : behind <:+ cs := by
              have hafter : ',' :: behind <:+ after := hcomma ▸ skip_suffix after
              exact (List.suffix_cons _ _).trans
                (hafter.trans ((hvalue ha).trans ((List.suffix_cons _ _).trans hcolon)))
            obtain ⟨⟨later, last⟩, hlater, hresult⟩ := Option.map_eq_some_iff.mp h
            cases hresult
            intro member hmember
            rcases List.mem_cons.mp hmember with rfl | hmember
            · exact ⟨place, after, ha, hcolon⟩
            · obtain ⟨there, more, hthere, hsuffix⟩ := ih hlater member hmember
              exact ⟨there, more, hthere, hsuffix.trans hbehind⟩
          next => cases h

end

/-- **What follows a value is an end of the text.** -/
theorem readValue_suffix {depth : Nat} {v : Json} (h : readValue depth cs = some (v, rest)) :
    rest <:+ cs := by
  induction depth generalizing cs v rest with
  | zero => cases h
  | succ depth ih =>
      have hskip := skip_suffix cs
      have hword : ∀ word : List Char, skip cs = word ++ rest → rest <:+ cs := fun word hread =>
        (List.suffix_append word rest).trans (hread ▸ hskip)
      unfold readValue at h
      split at h
      case h_1 hnull =>
        cases h
        exact hword ['n', 'u', 'l', 'l'] hnull
      case h_2 htrue =>
        cases h
        exact hword ['t', 'r', 'u', 'e'] htrue
      case h_3 hfalse =>
        cases h
        exact hword ['f', 'a', 'l', 's', 'e'] hfalse
      case h_4 inside hopen =>
        rw [hopen] at hskip
        obtain ⟨⟨s, after⟩, hs, hresult⟩ := Option.map_eq_some_iff.mp h
        cases hresult
        have hstring : rest <:+ inside := (List.suffix_cons _ _).trans (readString_suffix hs)
        exact hstring.trans ((List.suffix_cons _ _).trans hskip)
      case h_5 inside hopen =>
        rw [hopen] at hskip
        have hinside : skip inside <:+ cs :=
          (skip_suffix inside).trans ((List.suffix_cons _ _).trans hskip)
        split_ifs at h
        split at h
        next hclose =>
          cases h
          exact (List.suffix_cons _ _).trans (hclose ▸ hinside)
        next =>
          obtain ⟨⟨vs, after⟩, hvs, hresult⟩ := Option.map_eq_some_iff.mp h
          cases hresult
          exact (readItems_suffix ih hvs).trans hinside
      case h_6 inside hopen =>
        rw [hopen] at hskip
        have hinside : skip inside <:+ cs :=
          (skip_suffix inside).trans ((List.suffix_cons _ _).trans hskip)
        split_ifs at h
        split at h
        next hclose =>
          cases h
          exact (List.suffix_cons _ _).trans (hclose ▸ hinside)
        next =>
          obtain ⟨⟨members, after⟩, hmembers, hresult⟩ := Option.map_eq_some_iff.mp h
          cases hresult
          exact (readMembers_suffix ih hmembers).trans hinside
      case h_7 =>
        obtain ⟨⟨n, after⟩, hn, hresult⟩ := Option.map_eq_some_iff.mp h
        cases hresult
        exact (readNumber_suffix hn).trans hskip

end ReviewStream.Json
