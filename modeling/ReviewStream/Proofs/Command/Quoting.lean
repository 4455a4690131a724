import Mathlib.Tactic.Lemma
import Mathlib.Tactic.SplitIfs
import ReviewStream.Command.Review

/-!
# Quoted arguments

A quoted argument is read back from whatever it stands in front of: the reader comes to its end and
no further, and no part of the argument is taken for the end.

* `readToQuote?`, `readQuoted?`: the reader of quoted arguments.
* `readToQuote?_escapeArgument`: what is escaped is read up to the quote behind it.
* `readToQuote?_append`: what follows the end of an argument is left alone.
* **`readQuoted?_quoteArgument`**: quoting can be undone, does not end early, and keeps different
  values apart.
-/

namespace ReviewStream

/-- Reads up to the first quote that is not escaped, and tells what is left behind it.  A backslash
escapes the character behind it, which is then taken as it is. -/
def readToQuote? : (escaped : Bool) → List Char → Option (List Char × List Char)
  | _, [] => none
  | true, c :: rest => (readToQuote? false rest).map fun (value, left) => (c :: value, left)
  | false, c :: rest =>
    if c = '"' then some ([], rest)
    else if c = '\\' then readToQuote? true rest
    else (readToQuote? false rest).map fun (value, left) => (c :: value, left)

/-- Reads an argument between quotes, and what is left behind it. -/
def readQuoted? : List Char → Option (List Char × List Char)
  | '"' :: rest => readToQuote? false rest
  | _ => none

variable {cs value left : List Char} {s t : String}

/-! ## Escapes -/

lemma escapeArgument_cons (c : Char) (cs : List Char) :
    escapeArgument (c :: cs)
      = (if c = '"' ∨ c = '\\' then ['\\', c] else [c]) ++ escapeArgument cs := by
  rw [escapeArgument, List.flatMap_cons, escapeArgument]

/-- What is escaped is read as it was, up to the quote behind it. -/
lemma readToQuote?_escapeArgument (cs rest : List Char) :
    readToQuote? false (escapeArgument cs ++ '"' :: rest) = some (cs, rest) := by
  induction cs with
  | nil => rfl
  | cons c cs ih =>
      rw [escapeArgument_cons]
      by_cases hspecial : c = '"' ∨ c = '\\'
      · -- A backslash stands in front, and what is behind it is taken whatever it is.
        rw [if_pos hspecial, List.append_assoc, List.cons_append, List.cons_append,
          List.nil_append, readToQuote?, if_neg (by decide), if_pos rfl, readToQuote?, ih]
        rfl
      · obtain ⟨hquote, hbackslash⟩ := not_or.mp hspecial
        rw [if_neg hspecial, List.append_assoc, List.cons_append, List.nil_append, readToQuote?,
          if_neg hquote, if_neg hbackslash, ih]
        rfl

/-- What follows the end of an argument is left alone. -/
lemma readToQuote?_append {escaped : Bool} (h : readToQuote? escaped cs = some (value, left))
    (more : List Char) : readToQuote? escaped (cs ++ more) = some (value, left ++ more) := by
  induction cs generalizing escaped value with
  | nil => cases h
  | cons c cs ih =>
      rw [List.cons_append]
      -- Where a character is taken, what is read behind it goes on with `more` as well.
      have htaken (h : (readToQuote? false cs).map (fun (value, left) => (c :: value, left))
            = some (value, left)) :
          (readToQuote? false (cs ++ more)).map (fun (value, left) => (c :: value, left))
            = some (value, left ++ more) := by
        obtain ⟨⟨inside, behind⟩, hread, hresult⟩ := Option.map_eq_some_iff.mp h
        cases hresult
        rw [ih hread]
        rfl
      cases escaped with
      | true => exact htaken h
      | false =>
          rw [readToQuote?] at h ⊢
          split_ifs at h ⊢ with hquote hbackslash
          · cases h
            rfl
          · exact ih h
          · exact htaken h

/-! ## Quoted arguments -/

lemma toList_quoteArgument (s : String) :
    (quoteArgument s).toList = '"' :: (escapeArgument s.toList ++ ['"']) :=
  String.toList_ofList

/-- A quoted argument is read back, and what follows it is left. -/
lemma readQuoted?_quoteArgument_append (s rest : String) :
    readQuoted? (quoteArgument s ++ rest).toList = some (s.toList, rest.toList) := by
  rw [String.toList_append, toList_quoteArgument, List.cons_append, readQuoted?,
    List.append_assoc, List.cons_append, List.nil_append, readToQuote?_escapeArgument]

lemma readQuoted?_append {front : List Char}
    (h : readQuoted? front = some (value, left)) (more : List Char) :
    readQuoted? (front ++ more) = some (value, left ++ more) := by
  cases front with
  | nil => cases h
  | cons c rest =>
      by_cases hquote : c = '"'
      · subst hquote
        exact readToQuote?_append h more
      · rw [readQuoted?] at h
        · cases h
        · rintro _ ⟨⟩
          exact hquote rfl

/-- No part of a quoted argument but the whole of it is an argument. -/
lemma readQuoted?_eq_none_of_prefix {front more : String} (h : front ++ more = quoteArgument s)
    (hmore : more ≠ "") : readQuoted? front.toList = none := by
  cases hread : readQuoted? front.toList with
  | none => rfl
  | some read =>
      have hwhole := readQuoted?_quoteArgument_append s ""
      rw [String.append_empty, ← h, String.toList_append,
        readQuoted?_append hread] at hwhole
      have hleft : read.2 ++ more.toList = [] := congrArg Prod.snd (Option.some.inj hwhole)
      exact absurd (String.toList_inj.mp (List.append_eq_nil_iff.mp hleft).2) hmore

/-- Different values are quoted differently, whatever follows. -/
lemma quoteArgument_append_inj {rest rest' : String} :
    quoteArgument s ++ rest = quoteArgument t ++ rest' ↔ s = t ∧ rest = rest' := by
  constructor
  · intro h
    have hread := readQuoted?_quoteArgument_append s rest
    rw [h, readQuoted?_quoteArgument_append, Option.some.injEq, Prod.mk.injEq, String.toList_inj,
      String.toList_inj] at hread
    exact ⟨hread.1.symm, hread.2.symm⟩
  · rintro ⟨rfl, rfl⟩
    rfl

/-- **Quoting delimits an argument and can be undone.**  Whatever stands behind a quoted argument,
the reader finds the argument as it was and leaves what is behind.  It does not end before the last
quote, and different values are quoted differently. -/
theorem readQuoted?_quoteArgument (s : String) :
    (∀ rest : String, readQuoted? (quoteArgument s ++ rest).toList = some (s.toList, rest.toList))
      ∧ (∀ front more : String, front ++ more = quoteArgument s → more ≠ "" →
        readQuoted? front.toList = none)
      ∧ ∀ t rest rest' : String,
        quoteArgument s ++ rest = quoteArgument t ++ rest' ↔ s = t ∧ rest = rest' :=
  ⟨readQuoted?_quoteArgument_append s, fun _ _ => readQuoted?_eq_none_of_prefix,
    fun _ _ _ => quoteArgument_append_inj⟩

/-- A value that ends in a backslash: neither the quote inside it nor the one behind the backslash
ends the argument, and the option behind it is left alone. -/
theorem readQuoted?_quoteArgument_of_backslash :
    let s := "a\" --submit\\"
    ("\"a\\\"" ++ " --submit\\\\\"" = quoteArgument s ∧ " --submit\\\\\"" ≠ "")
      ∧ readQuoted? "\"a\\\"".toList = none
      ∧ readQuoted? (quoteArgument s ++ " --tag").toList = some (s.toList, " --tag".toList)
      ∧ quoteArgument s ++ " --tag" ≠ quoteArgument "a" ++ " --tag" := by
  intro s
  have hcut : "\"a\\\"" ++ " --submit\\\\\"" = quoteArgument s := by decide
  have hmore : " --submit\\\\\"" ≠ "" := by decide
  obtain ⟨hread, hearly, hinj⟩ := readQuoted?_quoteArgument s
  refine ⟨⟨hcut, hmore⟩, hearly _ _ hcut hmore, hread _, fun heq => ?_⟩
  exact absurd ((hinj "a" _ _).mp heq).1 (by decide)

end ReviewStream
