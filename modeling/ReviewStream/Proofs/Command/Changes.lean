import Mathlib.Data.List.Forall2
import ReviewStream.Command.Query
import ReviewStream.Proofs.Event.Kinds
import ReviewStream.Proofs.Json.Written

/-!
# The changes in the output of a query

Each row of the output that is not blank holds a JSON object, which is a change or the statistics.
If a row holds something else, there are no changes at all, and the first such row says why.

* `HoldsObject`, `IsBadRow`: what may stand in a row.
* `readChanges?_of_objects`: rows that all hold objects.
* `readChanges?_of_bad_row`: the first row that does not.
* **`readChanges?_outcome`**: what is read of any output, and of one that was printed.
-/

namespace ReviewStream

variable {row bad : List Char} {front back cores : List (List Char)} {v : Json} {vs : List Json}
  {e : DecodeError} {output : String}

/-- The row holds an object. -/
structure HoldsObject (row : List Char) (v : Json) : Prop where
  reads : Json.readChars? row = some v
  isObject : v.isObject = true

/-- The row holds no object: it is not JSON, or it is another value. -/
inductive IsBadRow : List Char → DecodeError → Prop where
  | notJson {row : List Char} (hrow : Json.readChars? row = none) : IsBadRow row .syntaxFault
  | notObject {row : List Char} {v : Json} (hrow : Json.readChars? row = some v)
      (hv : v.isObject = false) : IsBadRow row .notAnObject

/-- The value is not the statistics of a query. -/
def IsChange (v : Json) : Prop := v.get? "type" ≠ some (.text "stats")

instance (v : Json) : Decidable (IsChange v) :=
  inferInstanceAs (Decidable (v.get? "type" ≠ some (.text "stats")))

/-! ## Rows -/

lemma readRow?_eq_ok_iff : readRow? row = .ok v ↔ HoldsObject row v := by
  constructor
  · intro h
    rw [readRow?] at h
    split at h
    · cases h
    next w hw =>
      split_ifs at h with hobject
      cases h
      exact ⟨hw, hobject⟩
  · rintro ⟨hreads, hobject⟩
    rw [readRow?, hreads]
    exact if_pos hobject

lemma IsBadRow.readRow?_eq (h : IsBadRow row e) : readRow? row = .error e := by
  cases h with
  | notJson hrow => rw [readRow?, hrow]
  | notObject hrow hv =>
      rw [readRow?, hrow]
      exact if_neg (by simp [hv])

lemma mapM_readRow?_eq_ok_iff {rows : List (List Char)} :
    rows.mapM readRow? = .ok vs ↔ List.Forall₂ HoldsObject rows vs := by
  induction rows generalizing vs with
  | nil => cases vs <;> simp [pure, Except.pure]
  | cons row rows ih =>
      rw [List.mapM_cons]
      constructor
      · intro h
        obtain ⟨w, hw, hrest⟩ := exists_of_bind_eq_ok h
        obtain ⟨ws, hws, hresult⟩ := exists_of_bind_eq_ok hrest
        cases hresult
        exact .cons (readRow?_eq_ok_iff.mp hw) (ih.mp hws)
      · intro h
        cases h with
        | cons hrow hrows =>
            rw [readRow?_eq_ok_iff.mpr hrow, ih.mpr hrows]
            rfl

/-- The first bad row is the error, whatever comes behind it. -/
lemma mapM_readRow?_eq_error (hfront : ∀ row ∈ front, ∃ v, HoldsObject row v)
    (hbad : IsBadRow bad e) : (front ++ bad :: back).mapM readRow? = .error e := by
  induction front with
  | nil =>
      rw [List.nil_append, List.mapM_cons, hbad.readRow?_eq]
      rfl
  | cons row front ih =>
      obtain ⟨v, hv⟩ := hfront row List.mem_cons_self
      have hrest := ih fun row hrow => hfront row (List.mem_cons_of_mem _ hrow)
      rw [List.cons_append, List.mapM_cons, readRow?_eq_ok_iff.mpr hv, hrest]
      rfl

lemma not_isStatistics (v : Json) : (!isStatistics v) = decide (IsChange v) := by
  have hiff : isStatistics v = true ↔ ¬ IsChange v := by
    rw [isStatistics, beq_iff_eq, Json.textAt?_eq_some_iff, IsChange, not_not]
  by_cases h : IsChange v
  · simpa [h] using hiff
  · simpa [h] using hiff

lemma readChanges?_eq (h : Text.IsRows output.toList cores) :
    readChanges? output
      = ((cores.filter (!·.isEmpty)).mapM readRow?).map (·.filter (IsChange ·)) := by
  simp only [readChanges?, Text.filter_trim_rows h, not_isStatistics]

/-! ## Outputs -/

/-- Rows that all hold objects: these are the changes, but for the statistics. -/
lemma readChanges?_of_objects (h : Text.IsRows output.toList cores)
    (hvs : List.Forall₂ HoldsObject (cores.filter (!·.isEmpty)) vs) :
    readChanges? output = .ok (vs.filter (IsChange ·)) := by
  rw [readChanges?_eq h, mapM_readRow?_eq_ok_iff.mpr hvs]
  rfl

/-- The first bad row decides what is wrong with the output. -/
lemma readChanges?_of_bad_row (h : Text.IsRows output.toList cores)
    (hcores : cores.filter (!·.isEmpty) = front ++ bad :: back)
    (hfront : ∀ row ∈ front, ∃ v, HoldsObject row v) (hbad : IsBadRow bad e) :
    readChanges? output = .error e := by
  rw [readChanges?_eq h, hcores, mapM_readRow?_eq_error hfront hbad]
  rfl

/-! ## Printed objects -/

lemma isRows_printed (hvs : ∀ v ∈ vs, v.isObject = true) :
    Text.IsRows (String.join (vs.map fun v => v.toText ++ "\n")).toList (vs.map Json.write) := by
  induction vs with
  | nil => exact .nil
  | cons v vs ih =>
      obtain ⟨hv, hrest⟩ := List.forall_mem_cons.mp hvs
      have htext : (String.join ((v :: vs).map fun v => v.toText ++ "\n")).toList
          = v.write ++ '\n' :: (String.join (vs.map fun v => v.toText ++ "\n")).toList := by
        simp [Json.toText]
      rw [htext]
      exact .feed (Json.isRow_write hv) (ih hrest)

/-- Objects that are printed one on each row are read again, without the statistics. -/
lemma readChanges?_printed (hvs : ∀ v ∈ vs, v.isObject = true)
    (hread : ∀ v ∈ vs, Json.read? v.toText = some v) :
    readChanges? (String.join (vs.map fun v => v.toText ++ "\n"))
      = .ok (vs.filter (IsChange ·)) := by
  refine readChanges?_of_objects (isRows_printed hvs) ?_
  have hnone : (vs.map Json.write).filter (!·.isEmpty) = vs.map Json.write := by
    refine List.filter_eq_self.mpr fun row hrow => ?_
    obtain ⟨v, hv, rfl⟩ := List.mem_map.mp hrow
    have hobject := hvs v hv
    cases v with
    | object members => rfl
    | _ => cases hobject
  rw [hnone, List.forall₂_map_left_iff, List.forall₂_same]
  intro v hv
  have hreads := hread v hv
  rw [Json.read?, Json.toText, String.toList_ofList] at hreads
  exact ⟨hreads, hvs v hv⟩

/-- **What is read of the output of a query.**  Every output is made of rows.  If what stands in the
rows that are not blank are objects, these are the changes, in order, but for the statistics.  Else
the first row that holds something else is the error.  So objects that are printed one on each row,
with the statistics behind them, are read again without any statistics. -/
theorem readChanges?_outcome :
    (∀ output : String, ∃ cores, Text.IsRows output.toList cores)
      ∧ (∀ (output : String) (cores : List (List Char)), Text.IsRows output.toList cores →
        (∀ vs, List.Forall₂ HoldsObject (cores.filter (!·.isEmpty)) vs →
          readChanges? output = .ok (vs.filter (IsChange ·)))
        ∧ ∀ front bad back e, cores.filter (!·.isEmpty) = front ++ bad :: back →
          (∀ row ∈ front, ∃ v, HoldsObject row v) → IsBadRow bad e →
          readChanges? output = .error e)
      ∧ ∀ (objects : List Json) (stats : Json), ¬ IsChange stats →
        (∀ v ∈ objects ++ [stats], v.isObject = true ∧ Json.read? v.toText = some v) →
        readChanges? (String.join ((objects ++ [stats]).map fun v => v.toText ++ "\n"))
          = .ok (objects.filter (IsChange ·)) := by
  refine ⟨fun output => Text.exists_isRows output.toList, ?_, ?_⟩
  · intro output cores hrows
    exact ⟨fun vs => readChanges?_of_objects hrows,
      fun front bad back e => readChanges?_of_bad_row hrows⟩
  · intro objects stats hstats hall
    rw [readChanges?_printed (fun v hv => (hall v hv).1) fun v hv => (hall v hv).2,
      List.filter_append, List.filter_singleton]
    simp [hstats]

/-- A change with a blank in front and a carriage return behind, a blank row and the statistics; the
same printed; and a list in front of a row that is no JSON. -/
theorem readChanges?_outcome_of_one_change :
    let change : Json := .object [("number", .nat 4711)]
    let stats : Json := .object [("type", .text "stats")]
    let cores := ["\x7b\"number\":4711\x7d".toList, [], "\x7b\"type\":\"stats\"\x7d".toList]
    (Text.IsRows " \x7b\"number\":4711\x7d\r\n \n\x7b\"type\":\"stats\"\x7d".toList cores
        ∧ List.Forall₂ HoldsObject (cores.filter (!·.isEmpty)) [change, stats]
        ∧ Text.IsRows "[]\noops".toList ["[]".toList, "oops".toList]
        ∧ IsBadRow "[]".toList .notAnObject
        ∧ ¬ IsChange stats
        ∧ ∀ v ∈ [change] ++ [stats], v.isObject = true ∧ Json.read? v.toText = some v)
      ∧ readChanges? " \x7b\"number\":4711\x7d\r\n \n\x7b\"type\":\"stats\"\x7d" = .ok [change]
      ∧ readChanges? "[]\noops" = .error .notAnObject
      ∧ readChanges? "\x7b\"number\":4711\x7d\n\x7b\"type\":\"stats\"\x7d\n" = .ok [change] := by
  intro change stats cores
  obtain ⟨-, houtput, hprinted⟩ := readChanges?_outcome
  have hrow (row core : List Char) (hfeed : '\n' ∉ row) (hcore : Text.trim row = core) :
      Text.IsRow row core := hcore ▸ Text.isRow_trim hfeed
  have hrows :
      Text.IsRows " \x7b\"number\":4711\x7d\r\n \n\x7b\"type\":\"stats\"\x7d".toList cores :=
    .returnFeed (hrow " \x7b\"number\":4711\x7d".toList _ (by decide) (by decide))
      (.feed (hrow [' '] _ (by decide) (by decide))
        (.unended (hrow _ _ (by decide) (by decide))))
  have hobjects : List.Forall₂ HoldsObject (cores.filter (!·.isEmpty)) [change, stats] :=
    .cons ⟨rfl, rfl⟩ (.cons ⟨rfl, rfl⟩ .nil)
  have hrows' : Text.IsRows "[]\noops".toList ["[]".toList, "oops".toList] :=
    .feed (hrow "[]".toList _ (by decide) (by decide))
      (.unended (hrow _ _ (by decide) (by decide)))
  have hbad : IsBadRow "[]".toList .notAnObject := .notObject (v := .list []) rfl rfl
  have hstats : ¬ IsChange stats := by decide
  have hall : ∀ v ∈ [change] ++ [stats], v.isObject = true ∧ Json.read? v.toText = some v := by
    have hchange : Json.read? (Json.object [("number", .nat 4711)]).toText
        = some (.object [("number", .nat 4711)]) := by rfl
    have hcount : Json.read? (Json.object [("type", .text "stats")]).toText
        = some (.object [("type", .text "stats")]) := by rfl
    intro v hv
    rcases List.mem_pair.mp hv with rfl | rfl
    · exact ⟨rfl, hchange⟩
    · exact ⟨rfl, hcount⟩
  refine ⟨⟨hrows, hobjects, hrows', hbad, hstats, hall⟩, ?_, ?_, ?_⟩
  · exact (houtput _ _ hrows).1 _ hobjects
  · exact (houtput _ _ hrows').2 [] _ ["oops".toList] _ (by decide) nofun hbad
  · exact hprinted [change] stats hstats hall

end ReviewStream
