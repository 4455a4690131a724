import ReviewStream.Proofs.Text.Blanks
import ReviewStream.Proofs.Text.Pieces

/-!
# Rows of a text

Rows end at a line feed or at a carriage return with a line feed behind it; the last row may be
without an end.  What counts of a row is the text that stands in it among blanks, which is empty for
a blank row.

* `Text.IsRow`, `Text.IsRows`: what stands in a row, and in all rows of a text.
* `Text.exists_isRows`: every text is made of rows.
* **`Text.filter_trim_rows`**: what stands in the rows that are not blank is what is cut out of the
  text.
-/

namespace ReviewStream.Text

variable {cs row core rest : List Char} {cores : List (List Char)}

/-! ## What a text is made of -/

/-- A row without its end, and the text that stands in it among blanks. -/
structure IsRow (row core : List Char) : Prop where
  feed_notMem : '\n' ∉ row
  isTrimmed : IsTrimmed core
  exists_blanks : ∃ front back, row = front ++ core ++ back
    ∧ (∀ c ∈ front, isBlank c) ∧ ∀ c ∈ back, isBlank c

/-- The rows that a text is made of, each by what stands in it. -/
inductive IsRows : List Char → List (List Char) → Prop where
  | nil : IsRows [] []
  | unended {row core : List Char} (hrow : IsRow row core) : IsRows row [core]
  | feed {row core rest : List Char} {cores : List (List Char)} (hrow : IsRow row core)
      (hrest : IsRows rest cores) : IsRows (row ++ '\n' :: rest) (core :: cores)
  | returnFeed {row core rest : List Char} {cores : List (List Char)} (hrow : IsRow row core)
      (hrest : IsRows rest cores) : IsRows (row ++ '\r' :: '\n' :: rest) (core :: cores)

lemma IsRow.trim_eq (h : IsRow row core) : trim row = core :=
  trim_eq_iff.mpr ⟨h.isTrimmed, h.exists_blanks⟩

lemma isRow_trim (h : '\n' ∉ row) : IsRow row (trim row) := by
  obtain ⟨hcore, hblanks⟩ := trim_eq_iff.mp (rfl : trim row = _)
  exact ⟨h, hcore, hblanks⟩

/-- A trimmed text is a row of itself. -/
lemma isRow_self (hfeed : '\n' ∉ cs) (hcs : IsTrimmed cs) : IsRow cs cs :=
  ⟨hfeed, hcs, [], [], by simp⟩

/-- Every text is made of rows. -/
lemma exists_isRows (cs : List Char) : ∃ cores, IsRows cs cores := by
  induction hlength : cs.length using Nat.strongRecOn generalizing cs with
  | ind n ih =>
      by_cases hfeed : '\n' ∈ cs
      · obtain ⟨row, rest, rfl, hrow⟩ := List.eq_append_cons_of_mem hfeed
        obtain ⟨cores, hrest⟩ := ih rest.length (by simp at hlength; omega) rest rfl
        exact ⟨trim row :: cores, .feed (isRow_trim hrow) hrest⟩
      · exact ⟨[trim cs], .unended (isRow_trim hfeed)⟩

/-! ## What is cut out of a text -/

lemma rows_eq_pieces (cs : List Char) :
    rows cs = (endedPieces '\n' cs).map dropReturn
      ++ if (openPiece '\n' cs).isEmpty then [] else [openPiece '\n' cs] := by
  rw [rows, splitAll_eq_splitOn, openPiece_eq_getLastD, endedPieces]

lemma rows_of_notMem (h : '\n' ∉ row) : rows row = if row.isEmpty then [] else [row] := by
  rw [rows_eq_pieces, endedPieces_of_notMem h, openPiece_of_notMem h]
  rfl

/-- The first row is cut off at the first line feed. -/
lemma rows_append_feed (h : '\n' ∉ row) (rest : List Char) :
    rows (row ++ '\n' :: rest) = dropReturn row :: rows rest := by
  rw [rows_eq_pieces, rows_eq_pieces rest, endedPieces_append_cons h, openPiece_append_cons,
    List.map_cons, List.cons_append]

/-- **What stands in the rows that are not blank is what is cut out of a text.** -/
lemma filter_trim_rows (h : IsRows cs cores) :
    ((rows cs).map trim).filter (!·.isEmpty) = cores.filter (!·.isEmpty) := by
  induction h with
  | nil => rfl
  | @unended row core hrow =>
      rw [rows_of_notMem hrow.feed_notMem]
      split_ifs with hempty
      · -- Nothing stands in the empty row.
        have hcore := hrow.trim_eq
        rw [List.isEmpty_iff.mp hempty] at hcore
        simp [← hcore, trim, trimStart, trimEnd]
      · rw [List.map_singleton, hrow.trim_eq]
  | feed hrow _ ih =>
      rw [rows_append_feed hrow.feed_notMem, List.map_cons, trim_dropReturn, hrow.trim_eq,
        List.filter_cons, List.filter_cons, ih]
  | @returnFeed row core rest cores hrow _ ih =>
      have hfeed : '\n' ∉ row ++ ['\r'] := by simpa using hrow.feed_notMem
      have hdrop : dropReturn (row ++ ['\r']) = row := by simp [dropReturn]
      rw [List.append_cons, rows_append_feed hfeed, hdrop, List.map_cons, hrow.trim_eq,
        List.filter_cons, List.filter_cons, ih]

end ReviewStream.Text
