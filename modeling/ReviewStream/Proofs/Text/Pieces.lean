import Mathlib.Data.List.DropRight
import ReviewStream.Text.Pieces

/-!
# Pieces that a separator ends

A text that still grows falls into the pieces that a separator has ended and the piece that is
still open.  `Text.splitAll` gives both at once; here they are taken apart, and appending to the
text is described by what it does to either.

* `endedPieces`, `openPiece`: the two parts.
* **`endedPieces_append`**, **`openPiece_append`**: a text that grows keeps its ended pieces, and
  only its open piece has to be cut again.
-/

namespace ReviewStream.Text

variable {α : Type} [DecidableEq α] {sep : α} {xs ys : List α}

/-- Cutting at every separator is what the standard library calls splitting. -/
theorem splitAll_eq_splitOn (sep : α) : ∀ xs : List α, splitAll sep xs = xs.splitOn sep
  | [] => rfl
  | x :: xs => by
      rw [splitAll, splitAll_eq_splitOn sep xs, List.splitOn_cons_eq_if_modifyHead]
      simp only [beq_iff_eq]
      split_ifs with h
      · rfl
      · cases hs : xs.splitOn sep with
        | nil => exact absurd hs (List.splitOn_ne_nil sep xs)
        | cons piece pieces => rfl

/-- A text is cut at its first separator. -/
lemma cutAt_append_sep (h : sep ∉ xs) (ys : List α) :
    cutAt sep (xs ++ sep :: ys) = some (xs, ys) := by
  induction xs with
  | nil => exact if_pos rfl
  | cons x xs ih =>
      rw [List.cons_append, cutAt, if_neg (fun hx => h (by simp [hx])),
        ih (fun hmem => h (List.mem_cons_of_mem _ hmem))]
      rfl

lemma cutAt_of_notMem (h : sep ∉ xs) : cutAt sep xs = none := by
  induction xs with
  | nil => rfl
  | cons x xs ih =>
      rw [cutAt, if_neg (fun hx => h (by simp [hx])),
        ih (fun hmem => h (List.mem_cons_of_mem _ hmem))]
      rfl

/-- Whatever is cut apart was joined by a separator, with none before it. -/
lemma eq_append_of_cutAt {front back : List α} (h : cutAt sep xs = some (front, back)) :
    xs = front ++ sep :: back ∧ sep ∉ front := by
  induction xs generalizing front with
  | nil => cases h
  | cons x xs ih =>
      rw [cutAt] at h
      split_ifs at h with hx
      · cases h
        exact ⟨by rw [hx, List.nil_append], List.not_mem_nil⟩
      · obtain ⟨⟨inside, behind⟩, hcut, hresult⟩ := Option.map_eq_some_iff.mp h
        cases hresult
        obtain ⟨hxs, hinside⟩ := ih hcut
        exact ⟨by rw [hxs, List.cons_append], by simp [Ne.symm hx, hinside]⟩

/-- A text is cut behind all that comes before its first separator. -/
lemma eq_before_of_cutAt {front back : List α} (h : cutAt sep xs = some (front, back)) :
    front = before sep xs := by
  induction xs generalizing front with
  | nil => cases h
  | cons x xs ih =>
      rw [cutAt] at h
      rw [before]
      split_ifs at h with hx
      · cases h
        rw [List.takeWhile_cons_of_neg (by simpa using hx)]
      · obtain ⟨⟨inside, behind⟩, hcut, hresult⟩ := Option.map_eq_some_iff.mp h
        cases hresult
        rw [List.takeWhile_cons_of_pos (by simpa using hx), ih hcut, before]

/-- The pieces of a text that a separator has ended. -/
def endedPieces (sep : α) (xs : List α) : List (List α) :=
  (xs.splitOn sep).dropLast

/-- What follows the last separator of a text. -/
def openPiece (sep : α) (xs : List α) : List α :=
  xs.rtakeWhile (· ≠ sep)

/-- The open piece is searched for separators no more. -/
lemma sep_notMem_openPiece (sep : α) (xs : List α) : sep ∉ openPiece sep xs := by
  intro h
  simpa using List.mem_rtakeWhile_imp h

lemma openPiece_of_notMem (h : sep ∉ xs) : openPiece sep xs = xs := by
  rw [openPiece, List.rtakeWhile_eq_self_iff]
  intro x hx
  simpa using fun hxs : x = sep => h (hxs ▸ hx)

lemma endedPieces_of_notMem (h : sep ∉ xs) : endedPieces sep xs = [] := by
  rw [endedPieces, List.splitOn_eq_singleton h]
  rfl

/-- What comes after a separator settles what is open. -/
lemma openPiece_append_sep (xs : List α) (h : sep ∉ ys) : openPiece sep (xs ++ sep :: ys) = ys := by
  induction ys using List.reverseRecOn with
  | nil => simp [openPiece]
  | append_singleton ys y ih =>
      have hy : y ≠ sep := fun hy => h (by simp [hy])
      have hys : sep ∉ ys := fun hmem => h (by simp [hmem])
      rw [← List.cons_append, ← List.append_assoc, openPiece,
        List.rtakeWhile_concat_pos _ _ _ (by simpa using hy)]
      exact congrArg (· ++ [y]) (ih hys)

/-- What comes before the last separator is ended. -/
lemma endedPieces_append_sep (xs : List α) (h : sep ∉ ys) :
    endedPieces sep (xs ++ sep :: ys) = xs.splitOn sep := by
  rw [endedPieces, List.splitOn_append_cons_self, List.splitOn_eq_singleton h,
    List.dropLast_concat]

omit [DecidableEq α] in
/-- A text with a separator in it, cut at the last one. -/
lemma exists_eq_append_sep (h : sep ∈ xs) : ∃ us vs, xs = us ++ sep :: vs ∧ sep ∉ vs := by
  obtain ⟨vs, us, hxs, hvs⟩ := List.eq_append_cons_of_mem (List.mem_reverse.mpr h)
  refine ⟨us.reverse, vs.reverse, ?_, by simpa using hvs⟩
  rw [← List.reverse_reverse xs, hxs]
  simp

/-- The ended pieces, with the open one behind them, are all pieces. -/
lemma splitOn_eq_ended_append_open (sep : α) (xs : List α) :
    xs.splitOn sep = endedPieces sep xs ++ [openPiece sep xs] := by
  by_cases h : sep ∈ xs
  · obtain ⟨us, vs, rfl, hvs⟩ := exists_eq_append_sep h
    rw [endedPieces_append_sep us hvs, openPiece_append_sep us hvs,
      List.splitOn_append_cons_self, List.splitOn_eq_singleton hvs]
  · rw [endedPieces_of_notMem h, openPiece_of_notMem h, List.splitOn_eq_singleton h]
    rfl

/-- The first separator ends the first piece. -/
lemma endedPieces_append_cons (h : sep ∉ xs) (ys : List α) :
    endedPieces sep (xs ++ sep :: ys) = xs :: endedPieces sep ys := by
  rw [endedPieces, List.splitOn_append_cons_self_of_not_mem h,
    List.dropLast_cons_of_ne_nil (List.splitOn_ne_nil sep ys), endedPieces]

lemma openPiece_eq_getLastD (sep : α) (xs : List α) :
    openPiece sep xs = (xs.splitOn sep).getLastD [] := by
  rw [splitOn_eq_ended_append_open]
  simp

/-- What stands before a separator is not open. -/
lemma openPiece_append_cons (sep : α) (xs ys : List α) :
    openPiece sep (xs ++ sep :: ys) = openPiece sep ys := by
  rw [openPiece_eq_getLastD, openPiece_eq_getLastD, List.splitOn_append_cons_self,
    splitOn_eq_ended_append_open sep ys]
  simp

/-- A text with a separator in it has two pieces at least. -/
lemma exists_splitOn_eq_cons_cons (h : sep ∈ xs) :
    ∃ first second rest, xs.splitOn sep = first :: second :: rest := by
  obtain ⟨us, vs, rfl, hvs⟩ := exists_eq_append_sep h
  rw [List.splitOn_append_cons_self, List.splitOn_eq_singleton hvs]
  obtain ⟨first, pieces, hpieces⟩ := List.exists_cons_of_ne_nil (List.splitOn_ne_nil sep us)
  obtain ⟨second, rest, hrest⟩ :=
    List.exists_cons_of_ne_nil (List.append_ne_nil_of_right_ne_nil pieces (List.cons_ne_nil vs []))
  exact ⟨first, second, rest, by rw [hpieces, List.cons_append, hrest]⟩

lemma length_openPiece_le (sep : α) (xs : List α) : (openPiece sep xs).length ≤ xs.length :=
  (List.rtakeWhile_suffix _ xs).length_le

/-- A separator hides what stands before it from the open piece. -/
lemma openPiece_append_of_mem (xs : List α) (h : sep ∈ ys) :
    openPiece sep (xs ++ ys) = openPiece sep ys := by
  obtain ⟨us, vs, rfl, hvs⟩ := exists_eq_append_sep h
  rw [← List.append_assoc, openPiece_append_sep _ hvs, openPiece_append_sep _ hvs]

/-- Cutting a text that grows: what was ended stays, and the open piece is cut again together with
what is new. -/
lemma splitOn_append (sep : α) (xs ys : List α) :
    (xs ++ ys).splitOn sep
      = endedPieces sep xs ++ (openPiece sep xs ++ ys).splitOn sep := by
  by_cases h : sep ∈ xs
  · obtain ⟨us, vs, rfl, hvs⟩ := exists_eq_append_sep h
    rw [endedPieces_append_sep us hvs, openPiece_append_sep us hvs, List.append_assoc,
      List.cons_append, List.splitOn_append_cons_self]
  · rw [endedPieces_of_notMem h, openPiece_of_notMem h]
    rfl

/-- **Ended pieces stay.**  New ones come from the open piece and what is appended to it. -/
theorem endedPieces_append (sep : α) (xs ys : List α) :
    endedPieces sep (xs ++ ys)
      = endedPieces sep xs ++ endedPieces sep (openPiece sep xs ++ ys) := by
  rw [endedPieces, splitOn_append, List.dropLast_append_of_ne_nil (List.splitOn_ne_nil sep _)]
  rfl

/-- **Only the open piece matters** for what is open after something has been appended. -/
theorem openPiece_append (sep : α) (xs ys : List α) :
    openPiece sep (xs ++ ys) = openPiece sep (openPiece sep xs ++ ys) := by
  by_cases h : sep ∈ ys
  · rw [openPiece_append_of_mem xs h, openPiece_append_of_mem _ h]
  · by_cases hx : sep ∈ xs
    · obtain ⟨us, vs, rfl, hvs⟩ := exists_eq_append_sep hx
      have hboth : sep ∉ vs ++ ys := by simp [h, hvs]
      rw [openPiece_append_sep us hvs, openPiece_of_notMem hboth, List.append_assoc,
        List.cons_append, openPiece_append_sep us hboth]
    · rw [openPiece_of_notMem hx]

/-- What is appended without a separator is open. -/
lemma openPiece_append_of_notMem (xs : List α) (h : sep ∉ ys) :
    openPiece sep (xs ++ ys) = openPiece sep xs ++ ys := by
  have hboth : sep ∉ openPiece sep xs ++ ys :=
    List.mem_append.not.mpr (not_or.mpr ⟨sep_notMem_openPiece sep xs, h⟩)
  rw [openPiece_append, openPiece_of_notMem hboth]

/-- A prefix without separators goes to the first piece. -/
lemma splitOn_append_of_notMem (h : sep ∉ xs) (ys : List α) :
    (xs ++ ys).splitOn sep = (ys.splitOn sep).modifyHead (xs ++ ·) := by
  induction xs with
  | nil => exact (congrFun List.modifyHead_id _).symm
  | cons x xs ih =>
      have hx : x ≠ sep := fun hx => h (by simp [hx])
      have hxs : sep ∉ xs := fun hmem => h (by simp [hmem])
      rw [List.cons_append, List.splitOn_cons_eq_if_modifyHead, ih hxs, if_neg (by simpa using hx),
        List.modifyHead_modifyHead]
      rfl

end ReviewStream.Text
