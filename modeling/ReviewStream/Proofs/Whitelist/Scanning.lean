import ReviewStream.Proofs.Whitelist.Agreement

/-!
# What the scan for a project finds

The scan goes through data of any form, JSON or not.  It looks for the word, then for a colon, for
the quote that opens a value, and at last for the quote that closes it and for a slash before that
one.  Whatever stands in between is skipped, and whatever follows the closing quote is not looked
at, so a slash counts only inside the value.

* `Text.afterPiece?_append`: where a word occurs first, if a character that is not in it stands
  before it.
* `quotedProject_append_quote`, `quotedProject_of_notMem`: a value that is closed, and one that is
  not.
* **`scanProject_eq_before`**: what the scan finds in a text of this form, and that it finds nothing
  in one that ends inside the value.
-/

namespace ReviewStream

/-! ## The first occurrence of a word -/

namespace Text

variable {α : Type} {piece lead rest : List α} {sep : α}

/-- A piece that begins a text with a foreign character in it ends before that character. -/
lemma prefix_of_prefix_append_sep (hsep : sep ∉ piece) (h : piece <+: lead ++ sep :: rest) :
    piece <+: lead := by
  have hcut : lead ++ [sep] <+: lead ++ sep :: rest :=
    (List.prefix_append_right_inj lead).mpr (List.prefix_append [sep] rest)
  rcases List.prefix_or_prefix_of_prefix h hcut with hshorter | hlonger
  · rcases List.prefix_concat_iff.mp hshorter with rfl | hlead
    · simp at hsep
    · exact hlead
  · exact absurd (hlonger.subset (by simp)) hsep

variable [DecidableEq α]

lemma afterPiece?_of_prefix (hpiece : piece ≠ []) (rest : List α) :
    afterPiece? piece (piece ++ rest) = some rest := by
  cases piece with
  | nil => exact absurd rfl hpiece
  | cons x xs =>
      have hprefix : (x :: xs).isPrefixOf (x :: (xs ++ rest)) = true :=
        List.isPrefixOf_iff_prefix.mpr (List.prefix_append (x :: xs) rest)
      rw [List.cons_append, afterPiece?, if_pos hprefix, ← List.cons_append, List.drop_left]

/-- **The first occurrence of a piece**, if a character that is not in it stands before it: no
occurrence can begin before that character and reach beyond it. -/
theorem afterPiece?_append (hpiece : piece ≠ []) (hsep : sep ∉ piece) (hlead : ¬ piece <:+: lead)
    (rest : List α) : afterPiece? piece (lead ++ sep :: (piece ++ rest)) = some rest := by
  have hnot (tail : List α) (htail : tail <:+: lead) :
      ¬ piece.isPrefixOf (tail ++ sep :: (piece ++ rest)) = true := by
    intro hprefix
    have hbegins := prefix_of_prefix_append_sep hsep (List.isPrefixOf_iff_prefix.mp hprefix)
    exact hlead (hbegins.isInfix.trans htail)
  induction lead with
  | nil =>
      have hhere := hnot [] (List.infix_refl [])
      rw [List.nil_append] at hhere ⊢
      rw [afterPiece?, if_neg hhere, afterPiece?_of_prefix hpiece]
  | cons x lead ih =>
      have hhere := hnot (x :: lead) (List.infix_refl _)
      rw [List.cons_append] at hhere ⊢
      rw [afterPiece?, if_neg hhere]
      exact ih (fun h => hlead (List.infix_cons h)) fun tail htail =>
        hnot tail (List.infix_cons htail)

end Text

/-! ## The value -/

/-- A value that is closed is read up to a slash in it, whatever follows. -/
lemma quotedProject_append_quote {value : List Char} (hvalue : '"' ∉ value) (after : List Char) :
    quotedProject (value ++ '"' :: after) = Text.before '/' value := by
  rw [quotedProject, Text.cutAt_append_sep hvalue]

/-- A value that is not closed does not count, not even up to a slash. -/
lemma quotedProject_of_notMem {value : List Char} (hvalue : '"' ∉ value) :
    quotedProject value = [] := by
  rw [quotedProject, Text.cutAt_of_notMem hvalue]

/-! ## The whole scan -/

/-- The scan of a text in which the word stands in quotes, with a colon and a quote behind it. -/
lemma scanProjectChars_append {pre a b : List Char} (hpre : ¬ projectMarker <:+: pre)
    (ha : ':' ∉ a) (hb : '"' ∉ b) (value : List Char) :
    scanProjectChars (pre ++ '"' :: (projectMarker ++ '"' :: (a ++ ':' :: (b ++ '"' :: value))))
      = quotedProject value := by
  have hmarker : projectMarker ≠ [] := by decide
  have hquote : '"' ∉ projectMarker := by decide
  have hword := Text.afterPiece?_append hmarker hquote hpre
    ('"' :: (a ++ ':' :: (b ++ '"' :: value)))
  have hgap : ':' ∉ '"' :: a := by simp [ha]
  exact scanProjectChars_eq_quotedProject hword hgap hb

/-- **What the scan finds.**  In a text whose first `project` stands in quotes, the value is what is
quoted behind the next colon.  The scan finds the part of it before its first slash, or all of it,
whatever follows the closing quote; and it finds nothing if the text ends before that quote. -/
theorem scanProject_eq_before {pre a b s : String} (hpre : ¬ projectMarker <:+: pre.toList)
    (ha : ':' ∉ a.toList) (hb : '"' ∉ b.toList) (hs : '"' ∉ s.toList) :
    (∀ post : String,
        scanProject (pre ++ "\"project\"" ++ a ++ ":" ++ b ++ "\"" ++ s ++ "\"" ++ post)
          = String.ofList (Text.before '/' s.toList))
      ∧ scanProject (pre ++ "\"project\"" ++ a ++ ":" ++ b ++ "\"" ++ s) = "" := by
  have hmarked : "\"project\"".toList = '"' :: (projectMarker ++ ['"']) := rfl
  have hcolon : ":".toList = [':'] := rfl
  have hquote : "\"".toList = ['"'] := rfl
  refine ⟨fun post => ?_, ?_⟩
  · have hscan := scanProjectChars_append hpre ha hb (s.toList ++ '"' :: post.toList)
    rw [quotedProject_append_quote hs] at hscan
    simp only [scanProject, String.toList_append, hmarked, hcolon, hquote, List.append_assoc,
      List.cons_append, List.nil_append, hscan]
  · have hscan := scanProjectChars_append hpre ha hb s.toList
    rw [quotedProject_of_notMem hs] at hscan
    simp only [scanProject, String.toList_append, hmarked, hcolon, hquote, List.append_assoc,
      List.cons_append, List.nil_append, hscan]

/-- A name with a slash, between other texts with slashes and an unquoted colon; and the same text
when it breaks off. -/
theorem scanProject_eq_before_of_path :
    let pre := "\x7b\"branch\":\"proj/ect\","
    let a := " \"é\" "
    let b := " [1/2: "
    let post := ",\"path\":\"a/b\"\x7d"
    ¬ projectMarker <:+: pre.toList ∧ ':' ∉ a.toList ∧ '"' ∉ b.toList
      ∧ scanProject
          (pre ++ "\"project\"" ++ a ++ ":" ++ b ++ "\"" ++ "översätt/x/y" ++ "\"" ++ post)
        = "översätt"
      ∧ scanProject (pre ++ "\"project\"" ++ a ++ ":" ++ b ++ "\"" ++ "översätt/x") = "" := by
  intro pre a b post
  have hpre : ¬ projectMarker <:+: pre.toList := by decide +kernel
  have ha : ':' ∉ a.toList := by decide +kernel
  have hb : '"' ∉ b.toList := by decide +kernel
  obtain ⟨hclosed, -⟩ := scanProject_eq_before (s := "översätt/x/y") hpre ha hb (by decide +kernel)
  obtain ⟨-, hbroken⟩ := scanProject_eq_before (s := "översätt/x") hpre ha hb (by decide +kernel)
  exact ⟨hpre, ha, hb, hclosed post, hbroken⟩

end ReviewStream
