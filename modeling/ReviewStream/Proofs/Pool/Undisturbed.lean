import ReviewStream.Proofs.Pool.Resizing
import ReviewStream.Proofs.Pool.Sizing

/-!
# A resize that nobody disturbs

Between the sections of a resize the workers go on and jobs come in, but as long as nobody else
moves a bound, what the call has read stays true.  None of its sections is refused then, and the
bounds are in order after each of them, wherever the setters of the single bounds had left them
before.

The call looks at the core size alone.  When that is the size asked for already, it has nothing to
do, and a maximum that was moved away from the core size stays where it is.

* `Pool.Resizing.Sole`: a pool that one call resizes, at any moment of the call.
* **`Pool.Resizing.Sole.step`**: the call's own sections and those of all others keep to it.
* **`Pool.Resizing.bounds_of_sole_call`**: what a call comes to, from any state that a pool can
  reach.
* `Pool.Resizing.max_ne_after_resize_to_core`: the call that leaves the maximum alone.
-/

namespace ReviewStream

open Pool (Action Occurrence)

variable {J : Type} {p q : Pool J} {c : Resize J}

/-! ## The sections one after the other -/

namespace Pool

lemma carryOut_cons {a : Action J} (h : p.step a = some (q, [])) (rest : List (Action J)) :
    p.carryOut (a :: rest) = q.carryOut rest := by
  rw [carryOut, h]

/-- The maximum that a resize leaves behind: the size that is asked for, unless the core size was
that size before. -/
def resizedMax (p : Pool J) (target : Nat) : Nat := if p.core = target then p.max else target

/-- A resize whose sections follow each other succeeds. -/
lemma resize_spec (horder : p.core ≤ p.max) (size : Nat) :
    ∃ q, p.resize size = (.ok (), q) ∧ q.core = Nat.max size 1
      ∧ q.max = p.resizedMax (Nat.max size 1) := by
  have hpos : 0 < Nat.max size 1 := Nat.le_max_right size 1
  rw [resize, resizePlan, resizedMax]
  generalize Nat.max size 1 = target at hpos
  rcases Nat.lt_trichotomy p.core target with hless | hsame | hmore
  · rw [if_pos hless, if_neg (Nat.ne_of_lt hless)]
    rcases step_setMax (p := p) hpos with ⟨-, q, hmax, hqcore, hqmax⟩ | ⟨hlate, -⟩
    · rcases step_setCore (p := q) target with ⟨-, s, hcore, hscore, hsmax⟩ | ⟨hlate, -⟩
      · refine ⟨s, ?_, hscore, hsmax.trans hqmax⟩
        rw [carryOut_cons hmax, carryOut_cons hcore, carryOut]
      · omega
    · omega
  · rw [if_neg (Nat.not_lt.mpr hsame.ge), if_neg (Nat.not_lt.mpr hsame.le), if_pos hsame]
    exact ⟨p, rfl, hsame, rfl⟩
  · rw [if_neg (Nat.not_lt.mpr hmore.le), if_pos hmore, if_neg (Nat.ne_of_gt hmore)]
    rcases step_setCore (p := p) target with ⟨-, q, hcore, hqcore, hqmax⟩ | ⟨hlate, -⟩
    · rcases step_setMax (p := q) hpos with ⟨-, s, hmax, hscore, hsmax⟩ | ⟨hlate, -⟩
      · refine ⟨s, ?_, hscore.trans hqcore, hsmax⟩
        rw [carryOut_cons hcore, carryOut_cons hmax, carryOut]
      · omega
    · omega

end Pool

/-! ## One call among the sections of others -/

namespace Pool.Resizing

variable {r next : Resizing J} {act : Act J} {acts : List (Act J)} {size : Nat}

/-- A call for a size is all that resizes a pool that was `p` before.  At any moment nobody has
overtaken it, so its plan fits the bounds of the pool. -/
structure Sole (p : Pool J) (size : Nat) (r : Resizing J) (c : Resize J) : Prop where
  calls_eq : r.calls = [c]
  target_eq : c.target = Nat.max size 1
  on_time : c.overtaken = false
  onCourse : c.OnCourse r.pool
  core_le_max : r.pool.core ≤ r.pool.max
  before : c.progress = .called → r.pool.core = p.core ∧ r.pool.max = p.max
  under_way : ∀ a rest, c.progress = .going a rest → p.core ≠ c.target
  after : c.progress = .returned → r.pool.core = c.target ∧ r.pool.max = p.resizedMax c.target

lemma Sole.getElem?_eq (h : Sole p size r c) : r.calls[0]? = some c := by
  rw [h.calls_eq]
  rfl

lemma sole_of_call (horder : p.core ≤ p.max) (size : Nat) :
    Sole p size ⟨p, [.ofSize size]⟩ (.ofSize size) where
  calls_eq := rfl
  target_eq := rfl
  on_time := rfl
  onCourse := .called rfl
  core_le_max := horder
  before _ := ⟨rfl, rfl⟩
  under_way := nofun
  after := nofun

/-- The sections of others leave the bounds to the call. -/
lemma Sole.congr (h : Sole p size r c) (hcore : q.core = r.pool.core) (hmax : q.max = r.pool.max) :
    Sole p size { r with pool := q } c where
  calls_eq := h.calls_eq
  target_eq := h.target_eq
  on_time := h.on_time
  onCourse := h.onCourse.congr hcore hmax
  core_le_max := by
    rw [hcore, hmax]
    exact h.core_le_max
  before := by
    rw [hcore, hmax]
    exact h.before
  under_way := h.under_way
  after := by
    rw [hcore, hmax]
    exact h.after

/-- A call that reads the core size knows what it has to do, and that is nothing if the core size is
the one that it wants. -/
lemma Sole.read (h : Sole p size r c) (hcalled : c.progress = .called) :
    Sole p size { r with calls := [c.withPlan (resizePlan r.pool.core c.target)] }
      (c.withPlan (resizePlan r.pool.core c.target)) := by
  obtain ⟨hcore, hmax⟩ := h.before hcalled
  refine ⟨rfl, ?_, ?_, c.onCourse_withPlan r.pool, h.core_le_max, ?_, ?_, ?_⟩
  · rw [Resize.target_withPlan]
    exact h.target_eq
  · rw [Resize.overtaken_withPlan]
    exact h.on_time
  · rw [resizePlan]
    split_ifs <;> simp [Resize.withPlan]
  · intro a rest hgoing hsame
    rw [Resize.target_withPlan] at hsame
    rw [hcore, hsame, resizePlan, if_neg (Nat.lt_irrefl _), if_neg (Nat.lt_irrefl _)] at hgoing
    cases hgoing
  · intro hreturned
    rw [Resize.target_withPlan]
    have hsame : p.core = c.target := by
      rw [resizePlan] at hreturned
      split_ifs at hreturned with hless hmore
      · cases hreturned
      · cases hreturned
      · omega
    exact ⟨hcore.trans hsame, by rw [hmax, resizedMax, if_pos hsame]⟩

/-- A section of the call is not refused, and the last one leaves both bounds where the call wants
them. -/
lemma Sole.moved {a : Action J} {rest : List (Action J)} (h : Sole p size r c)
    (hgoing : c.progress = .going a rest) :
    ∃ q, r.pool.step a = some (q, [])
      ∧ Sole p size ⟨q, [c.withPlan rest]⟩ (c.withPlan rest) := by
  have hdiffers : p.core ≠ c.target := h.under_way a rest hgoing
  rcases h.onCourse.section_spec hgoing h.core_le_max with
    ⟨hlate, -⟩ | ⟨q, hstep, horder, -, -, hcourse, -, hlast⟩
  · rw [h.on_time] at hlate
    cases hlate
  refine ⟨q, hstep, rfl, ?_, ?_, hcourse, horder, ?_, ?_, ?_⟩
  · rw [Resize.target_withPlan]
    exact h.target_eq
  · rw [Resize.overtaken_withPlan]
    exact h.on_time
  · cases rest <;> nofun
  · intro b later _
    rwa [Resize.target_withPlan]
  · intro hreturned
    have hnone : rest = [] := by
      cases rest with
      | nil => rfl
      | cons b later => cases hreturned
    obtain ⟨hcore, hmax⟩ := hlast h.on_time hnone
    rw [Resize.target_withPlan, resizedMax, if_neg hdiffers]
    exact ⟨hcore, hmax⟩

/-- A call that has not returned can take the lock, and goes on as it should. -/
lemma Sole.exists_goOn (h : Sole p size r c) (hover : c.progress ≠ .returned) :
    ∃ next d, r.goOn 0 c = some next ∧ Sole p size next d := by
  cases hprogress : c.progress with
  | returned => exact absurd hprogress hover
  | failed e =>
      -- Only a call that was overtaken fails.
      have hlate : c.overtaken = true := by
        cases h.onCourse with
        | failed _ hlate => exact hlate
        | called hother | returned hother | aboutToGrow hother _ | growing hother _
          | aboutToShrink hother _ | shrinking hother _ =>
            rw [hother] at hprogress
            cases hprogress
      rw [h.on_time] at hlate
      cases hlate
  | called =>
      refine ⟨_, _, ?_, h.read hprogress⟩
      rw [goOn, hprogress, h.calls_eq]
      rfl
  | going a rest =>
      obtain ⟨q, hstep, hsole⟩ := h.moved hprogress
      refine ⟨_, _, ?_, hsole⟩
      simp only [goOn, hprogress, hstep, h.calls_eq]
      rfl

/-- **Every step keeps to it**: the call goes on as it should, and nobody else moves a bound. -/
theorem Sole.step (h : Sole p size r c) (halone : ∀ n, act ≠ .call n)
    (hstep : r.step act = some next) : ∃ d, Sole p size next d := by
  cases act with
  | call n => exact absurd rfl (halone n)
  | proceed i =>
      obtain ⟨d, hget, hgo⟩ := Option.bind_eq_some_iff.mp hstep
      rw [h.calls_eq] at hget
      cases i with
      | zero =>
          obtain rfl := Option.some.inj hget
          have hover : c.progress ≠ .returned := by
            intro hreturned
            rw [goOn, hreturned] at hgo
            cases hgo
          obtain ⟨same, d, hsame, hsole⟩ := h.exists_goOn hover
          obtain rfl := Option.some.inj (hgo.symm.trans hsame)
          exact ⟨d, hsole⟩
      | succ i => cases hget
  | work a =>
      rw [Resizing.step] at hstep
      split_ifs at hstep with hbound
      obtain ⟨turn, hturn, rfl⟩ := Option.map_eq_some_iff.mp hstep
      obtain ⟨hcore, hmax⟩ := bounds_of_step (Bool.eq_false_iff.mpr hbound) hturn
      exact ⟨c, h.congr hcore hmax⟩

lemma Sole.run (h : Sole p size r c) (halone : ∀ n, .call n ∉ acts)
    (hrun : r.run acts = some next) : ∃ d, Sole p size next d := by
  induction acts generalizing r c with
  | nil =>
      cases hrun
      exact ⟨c, h⟩
  | cons act acts ih =>
      obtain ⟨middle, hstep, hrest⟩ := Option.bind_eq_some_iff.mp hrun
      obtain ⟨d, hmiddle⟩ := h.step (fun n heq => halone n (heq ▸ List.mem_cons_self)) hstep
      exact ih hmiddle (fun n hmem => halone n (List.mem_cons_of_mem _ hmem)) hrest

/-- **A resize that nobody disturbs.**  Whatever a pool has been through, and whatever its workers
and its other callers do between the sections of the call, as long as none of them resizes it: the
core size never exceeds the maximum, the call does not fail and is never held up, and when it has
returned the core size is the one that was asked for, and at least one.  So is the maximum, unless
the core size was that size before; then both bounds are what they were.

The same holds if the sections of the call follow each other. -/
theorem bounds_of_sole_call {first keepAlive : Nat} {actions : List (Action J)}
    {happened : List (Occurrence J)}
    (hp : (Pool.ofSize first keepAlive).run actions = some (p, happened))
    (halone : ∀ n, .call n ∉ acts) (h : (ofPool p).run (.call size :: acts) = some r) :
    (r.pool.core ≤ r.pool.max ∧ ∃ c, r.calls = [c] ∧ (∀ e, c.progress ≠ .failed e)
        ∧ (c.progress ≠ .returned → ∃ next, r.step (.proceed 0) = some next)
        ∧ (c.progress = .returned →
            r.pool.core = Nat.max size 1 ∧ r.pool.max = p.resizedMax (Nat.max size 1)))
      ∧ ∃ q, p.resize size = (.ok (), q) ∧ q.core = Nat.max size 1
        ∧ q.max = p.resizedMax (Nat.max size 1) := by
  have horder : p.core ≤ p.max := (sized_of_run hp).core_le_max
  obtain ⟨c, hsole⟩ : ∃ c, Sole p size r c := (sole_of_call horder size).run halone h
  refine ⟨⟨hsole.core_le_max, c, hsole.calls_eq, fun e hfailed => ?_, fun hover => ?_,
    fun hreturned => ?_⟩, resize_spec horder size⟩
  · obtain ⟨next, d, hgo, -⟩ := hsole.exists_goOn (by rw [hfailed]; nofun)
    rw [goOn, hfailed] at hgo
    cases hgo
  · obtain ⟨next, d, hgo, -⟩ := hsole.exists_goOn hover
    refine ⟨next, ?_⟩
    rw [step, hsole.getElem?_eq]
    exact hgo
  · rw [← hsole.target_eq]
    exact hsole.after hreturned

/-- A pool whose core size was set to nothing, and whose maximum is higher, grows to four workers
while a worker takes a job between the sections. -/
theorem bounds_of_sole_call_from_no_core :
    let actions : List (Action String) := [.setMax 3, .setCore 0, .submit "job"]
    let acts : List (Act String) := [.proceed 0, .proceed 0, .work (.look 1), .proceed 0]
    ∃ p happened r,
      (Pool.ofSize 2 1000).run actions = some (p, happened) ∧ p.core = 0 ∧ p.max = 3
        ∧ (ofPool p).run (.call 4 :: acts) = some r
        ∧ r.calls = [⟨4, .returned, false⟩] ∧ r.pool.core = 4 ∧ r.pool.max = 4 := by
  intro actions acts
  obtain ⟨⟨p, happened⟩, hp, hbounds⟩ :
      ∃ turn, (Pool.ofSize 2 1000).run actions = some turn ∧ turn.1.core = 0 ∧ turn.1.max = 3 :=
    ⟨_, rfl, rfl, rfl⟩
  have hrun : ∃ r, (ofPool p).run (.call 4 :: acts) = some r
      ∧ r.calls = [⟨4, .returned, false⟩] := by
    cases hp
    exact ⟨_, rfl, rfl⟩
  obtain ⟨r, hr, hcalls⟩ := hrun
  obtain ⟨⟨-, c, hc, -, -, hreturned⟩, -⟩ := bounds_of_sole_call hp (by simp [acts]) hr
  obtain rfl := List.singleton_inj.mp (hcalls.symm.trans hc)
  obtain ⟨hcore, hmax⟩ := hreturned rfl
  rw [resizedMax, if_neg (by rw [hbounds.1]; decide)] at hmax
  exact ⟨p, happened, r, hp, hbounds.1, hbounds.2, hr, hcalls, hcore, hmax⟩

/-- **A resize to the core size leaves the maximum alone.**  The maximum of a pool of three workers
is raised to five, and the pool is resized to three. -/
theorem max_ne_after_resize_to_core :
    ∃ p happened q, (Pool.ofSize 3 60000 : Pool String).run [.setMax 5] = some (p, happened)
      ∧ p.resize 3 = (.ok (), q) ∧ q.core = 3 ∧ q.max = 5 :=
  ⟨_, _, _, rfl, rfl, rfl, rfl⟩

end Pool.Resizing

end ReviewStream
