import Mathlib.Tactic.Lemma

/-!
# Runs

Pools, dispatchers, refreshes and connections take one step after the other.  A step that can be
taken leads to another state, and what happens in it goes on record.  A run is a sequence of steps,
and its record is joined from theirs.

What follows from this alone is stated here once, for every system of that kind.

* `IsRun`: a function that takes steps one after the other.
* `IsRun.exists_of_cons`, `IsRun.cons_eq_some`, `IsRun.append_eq_some`: runs are taken apart and put
  together.
* **`IsRun.induction`**: what every step preserves holds after every run.
-/

namespace ReviewStream

variable {σ α ω : Type} {step : σ → α → Option (σ × ω)} {run : σ → List α → Option (σ × ω)}
  {empty : ω} {join : ω → ω → ω}

/-- Steps are taken one after the other, each from the state that the one before has led to, and
their records are joined.  There is no run if one of them cannot be taken. -/
structure IsRun (step : σ → α → Option (σ × ω)) (run : σ → List α → Option (σ × ω)) (empty : ω)
    (join : ω → ω → ω) : Prop where
  nil : ∀ s, run s [] = some (s, empty)
  cons : ∀ s a acts, run s (a :: acts) = (step s a).bind fun first =>
    (run first.1 acts).bind fun rest => some (rest.1, join first.2 rest.2)
  empty_join : ∀ r, join empty r = r
  join_empty : ∀ r, join r empty = r
  join_assoc : ∀ r r' r'', join (join r r') r'' = join r (join r' r'')

/-- A record that is a list of what has happened. -/
lemma IsRun.ofLists {β : Type} {step : σ → α → Option (σ × List β)}
    {run : σ → List α → Option (σ × List β)} (nil : ∀ s, run s [] = some (s, []))
    (cons : ∀ s a acts, run s (a :: acts) = (step s a).bind fun first =>
      (run first.1 acts).bind fun rest => some (rest.1, first.2 ++ rest.2)) :
    IsRun step run [] (· ++ ·) :=
  ⟨nil, cons, List.nil_append, List.append_nil, List.append_assoc⟩

/-- A record of two lists. -/
lemma IsRun.ofPairs {β γ : Type} {step : σ → α → Option (σ × List β × List γ)}
    {run : σ → List α → Option (σ × List β × List γ)} (nil : ∀ s, run s [] = some (s, [], []))
    (cons : ∀ s a acts, run s (a :: acts) = (step s a).bind fun first =>
      (run first.1 acts).bind fun rest =>
        some (rest.1, first.2.1 ++ rest.2.1, first.2.2 ++ rest.2.2)) :
    IsRun step run ([], []) fun r r' => (r.1 ++ r'.1, r.2 ++ r'.2) where
  nil
  cons
  empty_join _ := rfl
  join_empty r := by simp
  join_assoc r r' r'' := by simp

namespace IsRun

variable {s t u : σ} {a : α} {acts later : List α} {record early late : ω}

/-- A run is a first step and a run after it. -/
lemma exists_of_cons (h : IsRun step run empty join) (hrun : run s (a :: acts) = some (t, record)) :
    ∃ u early late, step s a = some (u, early) ∧ run u acts = some (t, late)
      ∧ record = join early late := by
  rw [h.cons] at hrun
  obtain ⟨⟨u, early⟩, hstep, hafter⟩ := Option.bind_eq_some_iff.mp hrun
  obtain ⟨⟨t', late⟩, hrest, hresult⟩ := Option.bind_eq_some_iff.mp hafter
  cases hresult
  exact ⟨u, early, late, hstep, hrest, rfl⟩

lemma cons_eq_some (h : IsRun step run empty join) (hstep : step s a = some (t, early))
    (hrest : run t acts = some (u, late)) : run s (a :: acts) = some (u, join early late) := by
  rw [h.cons, hstep, Option.bind_some, hrest, Option.bind_some]

/-- One step is a run. -/
lemma singleton_eq_some (h : IsRun step run empty join) (hstep : step s a = some (t, record)) :
    run s [a] = some (t, record) := by
  rw [h.cons_eq_some hstep (h.nil t), h.join_empty]

/-- A run that is followed by another one is a run. -/
lemma append_eq_some (h : IsRun step run empty join) (hfirst : run s acts = some (t, early))
    (hrest : run t later = some (u, late)) :
    run s (acts ++ later) = some (u, join early late) := by
  induction acts generalizing s early with
  | nil =>
      rw [h.nil] at hfirst
      cases hfirst
      rwa [h.empty_join]
  | cons a acts ih =>
      obtain ⟨v, now, more, hstep, hafter, rfl⟩ := h.exists_of_cons hfirst
      rw [h.join_assoc]
      exact h.cons_eq_some hstep (ih hafter)

/-- What every step preserves holds after a run that follows some past. -/
lemma induction_after (h : IsRun step run empty join) {I : σ → List α → ω → Prop}
    (hstep : ∀ s past record a t now, a ∈ acts → I s past record → step s a = some (t, now) →
      I t (past ++ [a]) (join record now))
    (past : List α) (record : ω) (hI : I s past record) (hrun : run s acts = some (t, late)) :
    I t (past ++ acts) (join record late) := by
  induction acts generalizing s past record late with
  | nil =>
      rw [h.nil] at hrun
      cases hrun
      rwa [List.append_nil, h.join_empty]
  | cons a acts ih =>
      obtain ⟨u, now, more, hfirst, hrest, rfl⟩ := h.exists_of_cons hrun
      have hnext := hstep s past record a u now List.mem_cons_self hI hfirst
      have hlast := ih (fun s past record b t now hb =>
        hstep s past record b t now (List.mem_cons_of_mem a hb)) _ _ hnext hrest
      rwa [List.append_assoc, List.singleton_append, h.join_assoc] at hlast

/-- **What every step preserves holds after every run.**  The property may depend on what has been
done and on what is on record so far. -/
theorem induction (h : IsRun step run empty join) {I : σ → List α → ω → Prop}
    (hstep : ∀ s past record a t now, a ∈ acts → I s past record → step s a = some (t, now) →
      I t (past ++ [a]) (join record now))
    (hI : I s [] empty) (hrun : run s acts = some (t, record)) : I t acts record := by
  have hlast := h.induction_after hstep [] empty hI hrun
  rwa [List.nil_append, h.empty_join] at hlast

/-- What every step preserves of a state alone. -/
lemma invariant (h : IsRun step run empty join) {I : σ → Prop}
    (hstep : ∀ s a t now, a ∈ acts → I s → step s a = some (t, now) → I t) (hI : I s)
    (hrun : run s acts = some (t, record)) : I t :=
  h.induction (I := fun s _ _ => I s) (fun s _ _ a t now ha hs => hstep s a t now ha hs) hI hrun

end IsRun

end ReviewStream
