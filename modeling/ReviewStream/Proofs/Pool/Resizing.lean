import ReviewStream.Pool.Resizing
import ReviewStream.Proofs.Pool.Workers

/-!
# Resizing at the same time

A resize decides by the core size that it has read which bound it moves first, so that the core size
never exceeds the maximum.  What it has read is true as long as no other resize moves a bound.  The
pool refuses a section that would put the bounds in the wrong order, so they stay in order in any
case; but a call that was overtaken may be refused, and when it is not it may leave two bounds that
differ.

* `Resize.OnCourse`: what a call has left to do, and what it may rely on unless it was overtaken.
* **`Resize.OnCourse.section_spec`**: one section of a call.
* `Pool.Resizing.Sound`: the bounds and the calls, at every moment.
* **`Pool.Resizing.bounded_of_run`**: what holds of the bounds, however the calls interleave.
* `Pool.Resizing.bounds_ne_after_overtaking`: two calls that are both unlucky.
-/

namespace ReviewStream

open Pool (Action Occurrence)

variable {J : Type} {p q : Pool J} {c d : Resize J}

/-! ## Sections that move a bound -/

namespace Pool

/-- The maximum is moved unless it would be below the core size. -/
lemma step_setMax {max : Nat} (hmax : 0 < max) :
    (p.core ≤ max ∧ ∃ q, p.step (.setMax max) = some (q, []) ∧ q.core = p.core ∧ q.max = max)
      ∨ max < p.core
        ∧ p.step (.setMax max) = some (p, [.refused (.invalidBounds p.core max)]) := by
  rw [step, setMax]
  rcases Nat.lt_or_ge max p.core with hless | hfits
  · exact .inr ⟨hless, by simp [hless, settled]⟩
  · left
    have hguard : (max = 0 || max < p.core) = false := by simp; omega
    refine ⟨hfits, if max < p.size then wakeAll { p with max } else { p with max }, ?_, ?_⟩
    · rw [hguard]
      rfl
    · split_ifs <;> exact ⟨rfl, rfl⟩

lemma bounds_spawnUpTo : ∀ (n : Nat) (p : Pool J),
    (spawnUpTo n p).core = p.core ∧ (spawnUpTo n p).max = p.max
  | 0, _ => ⟨rfl, rfl⟩
  | n + 1, p => by
      rw [spawnUpTo]
      split_ifs
      · exact bounds_spawnUpTo n p.spawn
      · exact ⟨rfl, rfl⟩

/-- The core size is moved unless it would exceed the maximum. -/
lemma step_setCore (core : Nat) :
    (core ≤ p.max ∧ ∃ q, p.step (.setCore core) = some (q, []) ∧ q.core = core ∧ q.max = p.max)
      ∨ p.max < core
        ∧ p.step (.setCore core) = some (p, [.refused (.invalidBounds core p.max)]) := by
  rw [step, setCore]
  rcases Nat.lt_or_ge p.max core with hless | hfits
  · exact .inr ⟨hless, by simp [hless, settled]⟩
  · left
    rw [if_neg (Nat.not_lt.mpr hfits)]
    refine ⟨hfits, _, rfl, ?_⟩
    split_ifs
    · exact bounds_spawnUpTo _ _
    · exact ⟨rfl, rfl⟩
    · exact ⟨rfl, rfl⟩

lemma bounds_advance (p : Pool J) (id : Nat) :
    (p.advance id).1.core = p.core ∧ (p.advance id).1.max = p.max := by
  rw [advance]
  cases p.finding <;> exact ⟨rfl, rfl⟩

/-- No other section moves a bound. -/
lemma bounds_of_step {a : Action J} {r : Pool J × List (Occurrence J)}
    (hbound : a.movesBound = false) (h : p.step a = some r) :
    r.1.core = p.core ∧ r.1.max = p.max := by
  cases a with
  | setCore core | setMax max => cases hbound
  | submit job =>
      obtain rfl := Option.some.inj h
      simp only [submit]
      split_ifs <;> exact ⟨rfl, rfl⟩
  | setKeepAlive keepAlive =>
      obtain rfl := Option.some.inj h
      rw [setKeepAlive]
      dsimp only
      split_ifs <;> exact ⟨rfl, rfl⟩
  | shutdown | shutdownNow =>
      obtain rfl := Option.some.inj h
      exact ⟨rfl, rfl⟩
  | expire id =>
      simp only [step] at h
      split at h <;> cases h
      exact ⟨rfl, rfl⟩
  | look id =>
      simp only [step] at h
      split at h
      · obtain rfl := Option.some.inj h
        exact bounds_advance p id
      · split_ifs at h <;> obtain rfl := Option.some.inj h
        · exact ⟨rfl, rfl⟩
        · exact bounds_advance p id
      · cases h
  | finish id ending =>
      simp only [step] at h
      split at h <;> cases h
      exact bounds_advance _ id

end Pool

/-! ## Calls -/

namespace Resize

lemma target_pos (c : Resize J) : 0 < c.target := Nat.le_max_right _ _

@[simp] lemma target_withPlan (c : Resize J) (plan : List (Action J)) :
    (c.withPlan plan).target = c.target := by
  cases plan <;> rfl

@[simp] lemma overtaken_withPlan (c : Resize J) (plan : List (Action J)) :
    (c.withPlan plan).overtaken = c.overtaken := by
  cases plan <;> rfl

lemma overtake_of_going {a : Action J} {rest : List (Action J)} (h : c.progress = .going a rest) :
    c.overtake = { c with overtaken := true } := by
  rw [overtake, h]

lemma overtake_eq_self (h : ∀ a rest, c.progress ≠ .going a rest) : c.overtake = c := by
  rw [overtake]
  split
  next a rest hgoing => exact absurd hgoing (h a rest)
  next => rfl

@[simp] lemma target_overtake (c : Resize J) : c.overtake.target = c.target := by
  rw [overtake]
  split <;> rfl

/-- Whether the call has carried out one section of two. -/
def isHalfway (c : Resize J) : Bool :=
  match c.progress with
  | .going _ [] => true
  | _ => false

lemma isOver_eq_false_of_isHalfway (h : c.isHalfway = true) : c.isOver = false := by
  obtain ⟨size, progress, overtaken⟩ := c
  cases progress with
  | going next rest => rfl
  | _ => cases h

/-- What a call has left to do.  It is fit for the bounds of the pool unless the call was
overtaken. -/
inductive OnCourse (p : Pool J) (c : Resize J) : Prop where
  | called (h : c.progress = .called)
  | returned (h : c.progress = .returned)
  | failed {core max : Nat} (h : c.progress = .failed (.invalidBounds core max))
      (hlate : c.overtaken = true)
  | aboutToGrow (h : c.progress = .going (.setMax c.target) [.setCore c.target])
      (hread : c.overtaken = false → p.core < c.target)
  | growing (h : c.progress = .going (.setCore c.target) [])
      (hread : c.overtaken = false → p.max = c.target)
  | aboutToShrink (h : c.progress = .going (.setCore c.target) [.setMax c.target])
      (hread : c.overtaken = false → c.target < p.core)
  | shrinking (h : c.progress = .going (.setMax c.target) [])
      (hread : c.overtaken = false → p.core = c.target)

/-- A call looks at the bounds and at nothing else. -/
lemma OnCourse.congr (h : c.OnCourse p) (hcore : q.core = p.core) (hmax : q.max = p.max) :
    c.OnCourse q := by
  cases h with
  | called h => exact .called h
  | returned h => exact .returned h
  | failed h hlate => exact .failed h hlate
  | aboutToGrow h hread => exact .aboutToGrow h (hcore ▸ hread)
  | growing h hread => exact .growing h (hmax ▸ hread)
  | aboutToShrink h hread => exact .aboutToShrink h (hcore ▸ hread)
  | shrinking h hread => exact .shrinking h (hcore ▸ hread)

/-- A call that is overtaken relies on nothing any more. -/
lemma OnCourse.overtake (h : c.OnCourse p) (q : Pool J) : c.overtake.OnCourse q := by
  cases h with
  | called h =>
      rw [overtake_eq_self (by simp [h])]
      exact .called h
  | returned h =>
      rw [overtake_eq_self (by simp [h])]
      exact .returned h
  | failed h hlate =>
      rw [overtake_eq_self (by simp [h])]
      exact .failed h hlate
  | aboutToGrow h hread =>
      rw [overtake_of_going h]
      exact .aboutToGrow h nofun
  | growing h hread =>
      rw [overtake_of_going h]
      exact .growing h nofun
  | aboutToShrink h hread =>
      rw [overtake_of_going h]
      exact .aboutToShrink h nofun
  | shrinking h hread =>
      rw [overtake_of_going h]
      exact .shrinking h nofun

/-- What a call sets out to do is fit for the core size that it reads. -/
lemma onCourse_withPlan (c : Resize J) (p : Pool J) :
    (c.withPlan (Pool.resizePlan p.core c.target)).OnCourse p := by
  rw [Pool.resizePlan]
  split_ifs with hless hmore
  · exact .aboutToGrow rfl fun _ => hless
  · exact .aboutToShrink rfl fun _ => hmore
  · exact .returned rfl

/-- **One section of a call.**  It is refused only if the call was overtaken.  Else it moves one of
the bounds to the size that the call wants, and the last section of a call that was not overtaken
leaves both of them there. -/
theorem OnCourse.section_spec {a : Action J} {rest : List (Action J)} (h : c.OnCourse p)
    (hgoing : c.progress = .going a rest) (horder : p.core ≤ p.max) :
    (c.overtaken = true ∧ ∃ core max, p.step a = some (p, [.refused (.invalidBounds core max)]))
      ∨ ∃ q, p.step a = some (q, []) ∧ q.core ≤ q.max
        ∧ (q.core = p.core ∨ q.core = c.target) ∧ (q.max = p.max ∨ q.max = c.target)
        ∧ (c.withPlan rest).OnCourse q ∧ (rest = [] ∨ (c.withPlan rest).isHalfway = true)
        ∧ (c.overtaken = false → rest = [] → q.core = c.target ∧ q.max = c.target) := by
  cases h with
  | called h | returned h | failed h _ =>
      rw [h] at hgoing
      cases hgoing
  | aboutToGrow h hread =>
      rw [h] at hgoing
      cases hgoing
      rcases Pool.step_setMax (p := p) c.target_pos with
        ⟨hfits, q, hstep, hcore, hmax⟩ | ⟨hless, hstep⟩
      · refine .inr ⟨q, hstep, by omega, .inl hcore, .inr hmax, ?_, .inr rfl, nofun⟩
        exact .growing (by rw [target_withPlan]; rfl) fun _ => by rw [target_withPlan, hmax]
      · refine .inl ⟨?_, _, _, hstep⟩
        by_contra hfalse
        have hcore := hread (Bool.not_eq_true _ ▸ hfalse)
        omega
  | growing h hread =>
      rw [h] at hgoing
      cases hgoing
      rcases Pool.step_setCore (p := p) c.target with
        ⟨hfits, q, hstep, hcore, hmax⟩ | ⟨hless, hstep⟩
      · refine .inr ⟨q, hstep, by omega, .inr hcore, .inl hmax, .returned rfl, .inl rfl, ?_⟩
        exact fun hon _ => ⟨hcore, hmax.trans (hread hon)⟩
      · refine .inl ⟨?_, _, _, hstep⟩
        by_contra hfalse
        have hmax := hread (Bool.not_eq_true _ ▸ hfalse)
        omega
  | aboutToShrink h hread =>
      rw [h] at hgoing
      cases hgoing
      rcases Pool.step_setCore (p := p) c.target with
        ⟨hfits, q, hstep, hcore, hmax⟩ | ⟨hless, hstep⟩
      · refine .inr ⟨q, hstep, by omega, .inr hcore, .inl hmax, ?_, .inr rfl, nofun⟩
        exact .shrinking (by rw [target_withPlan]; rfl) fun _ => by rw [target_withPlan, hcore]
      · refine .inl ⟨?_, _, _, hstep⟩
        by_contra hfalse
        have hcore := hread (Bool.not_eq_true _ ▸ hfalse)
        omega
  | shrinking h hread =>
      rw [h] at hgoing
      cases hgoing
      rcases Pool.step_setMax (p := p) c.target_pos with
        ⟨hfits, q, hstep, hcore, hmax⟩ | ⟨hless, hstep⟩
      · refine .inr ⟨q, hstep, by omega, .inl hcore, .inr hmax, .returned rfl, .inl rfl, ?_⟩
        exact fun hon _ => ⟨hcore.trans (hread hon), hmax⟩
      · refine .inl ⟨?_, _, _, hstep⟩
        by_contra hfalse
        have hcore := hread (Bool.not_eq_true _ ▸ hfalse)
        omega

end Resize

/-! ## Lists of calls -/

section Calls

variable {calls : List (Resize J)} {i : Nat}

lemma map_target_set (hget : calls[i]? = some c) (htarget : d.target = c.target) :
    (calls.set i d).map Resize.target = calls.map Resize.target := by
  have hlt := (List.getElem?_eq_some_iff.mp hget).1
  refine List.ext_getElem? fun j => ?_
  rw [List.getElem?_map, List.getElem?_map]
  by_cases hij : i = j
  · subst hij
    rw [List.getElem?_set_self hlt, hget, Option.map_some, Option.map_some, htarget]
  · rw [List.getElem?_set_ne hij]

lemma map_target_overtake : (calls.map Resize.overtake).map Resize.target
    = calls.map Resize.target := by
  rw [List.map_map]
  exact List.map_congr_left fun c _ => c.target_overtake

lemma mem_set_of_ne {x : Resize J} (hget : calls[i]? = some c) (hmem : d ∈ calls) (hne : d ≠ c) :
    d ∈ calls.set i x := by
  obtain ⟨j, hj⟩ := List.mem_iff_getElem?.mp hmem
  have hij : i ≠ j := by
    rintro rfl
    exact hne (Option.some.inj (hj.symm.trans hget))
  exact List.mem_of_getElem? ((List.getElem?_set_ne hij).trans hj)

/-- Who was overtaken stays so. -/
lemma overtaken_eq_false_of_set {f : Resize J → Resize J} {x : Resize J}
    (hf : ∀ c, c.overtaken = true → (f c).overtaken = true) (hget : calls[i]? = some c)
    (hx : x.overtaken = c.overtaken)
    (hall : ∀ d ∈ (calls.map f).set i x, d.overtaken = false) :
    ∀ d ∈ calls, d.overtaken = false := by
  intro d hd
  obtain ⟨j, hj⟩ := List.mem_iff_getElem?.mp hd
  by_cases hij : i = j
  · subst hij
    obtain rfl := Option.some.inj (hj.symm.trans hget)
    have hlt : i < (calls.map f).length := by
      rw [List.length_map]
      exact (List.getElem?_eq_some_iff.mp hget).1
    rw [← hx]
    exact hall x (List.mem_set hlt x)
  · have hmem : f d ∈ (calls.map f).set i x := by
      refine List.mem_of_getElem? (i := j) ?_
      rw [List.getElem?_set_ne hij, List.getElem?_map, hj]
      rfl
    have hfalse := hall (f d) hmem
    by_contra htrue
    rw [hf d (Bool.not_eq_false _ ▸ htrue)] at hfalse
    cases hfalse

end Calls

/-! ## Interleavings -/

namespace Pool.Resizing

variable {r next : Resizing J} {act : Act J} {i size : Nat}

/-- The sizes that the bounds may have: the first one and those that have been asked for. -/
def targets (size : Nat) (r : Resizing J) : List Nat :=
  Nat.max size 1 :: r.calls.map Resize.target

/-- What holds of the bounds and the calls at every moment.  While no call has been overtaken, the
bounds are the same except halfway through a call. -/
structure Sound (size : Nat) (r : Resizing J) : Prop where
  core_le_max : r.pool.core ≤ r.pool.max
  core_mem : r.pool.core ∈ r.targets size
  max_mem : r.pool.max ∈ r.targets size
  onCourse : ∀ c ∈ r.calls, c.OnCourse r.pool
  eq_or_halfway : (∀ c ∈ r.calls, c.overtaken = false) →
    r.pool.core = r.pool.max ∨ ∃ c ∈ r.calls, c.isHalfway = true

/-! ### Steps -/

/-- What a call can do that takes the lock. -/
inductive Goes (r : Resizing J) (i : Nat) (c : Resize J) : Resizing J → Prop
  | read (h : c.progress = .called) :
      Goes r i c { r with calls := r.calls.set i (c.withPlan (resizePlan r.pool.core c.target)) }
  | refused {core max : Nat} (hlate : c.overtaken = true) :
      Goes r i c { r with calls := r.calls.set i (c.fail (.invalidBounds core max)) }
  | moved {q : Pool J} {rest : List (Action J)} (horder : q.core ≤ q.max)
      (hcore : q.core = r.pool.core ∨ q.core = c.target)
      (hmax : q.max = r.pool.max ∨ q.max = c.target) (hrest : (c.withPlan rest).OnCourse q)
      (hhalf : rest = [] ∨ (c.withPlan rest).isHalfway = true)
      (hlast : c.overtaken = false → rest = [] → q.core = c.target ∧ q.max = c.target) :
      Goes r i c { pool := q, calls := (r.calls.map Resize.overtake).set i (c.withPlan rest) }

/-- A call that is not over can take the lock, and this is what it does. -/
lemma exists_goes (hcourse : c.OnCourse r.pool) (horder : r.pool.core ≤ r.pool.max)
    (hover : c.isOver = false) : ∃ next, r.goOn i c = some next ∧ r.Goes i c next := by
  cases hprogress : c.progress with
  | called => exact ⟨_, by rw [goOn, hprogress], .read hprogress⟩
  | returned | failed e => simp [Resize.isOver, hprogress] at hover
  | going a rest =>
      rw [goOn, hprogress]
      rcases hcourse.section_spec hprogress horder with
        ⟨hlate, core, max, hstep⟩ | ⟨q, hstep, hq, hcore, hmax, hrest, hhalf, hlast⟩
      · simp only [hstep]
        exact ⟨_, rfl, .refused hlate⟩
      · simp only [hstep]
        exact ⟨_, rfl, .moved hq hcore hmax hrest hhalf hlast⟩

lemma isOver_eq_false_of_goOn (h : r.goOn i c = some next) : c.isOver = false := by
  rw [goOn] at h
  cases hprogress : c.progress with
  | called | going => rw [Resize.isOver, hprogress]
  | returned | failed =>
      rw [hprogress] at h
      cases h

/-- Which sizes have been asked for does not depend on how far the calls have come. -/
lemma targets_congr (size : Nat) (q : Pool J) {calls : List (Resize J)}
    (h : calls.map Resize.target = r.calls.map Resize.target) :
    targets size ⟨q, calls⟩ = r.targets size := congrArg (Nat.max size 1 :: ·) h

lemma Sound.goes (h : r.Sound size) (hget : r.calls[i]? = some c) (hgoes : r.Goes i c next) :
    next.Sound size := by
  have hmem : c ∈ r.calls := List.mem_of_getElem? hget
  have hlt : i < r.calls.length := (List.getElem?_eq_some_iff.mp hget).1
  cases hgoes with
  | read hcalled =>
      have htargets := targets_congr (r := r) size r.pool
        (map_target_set hget (c.target_withPlan (resizePlan r.pool.core c.target)))
      refine ⟨h.core_le_max, htargets ▸ h.core_mem, htargets ▸ h.max_mem, fun d hd => ?_,
        fun hall => ?_⟩
      · rcases List.mem_or_eq_of_mem_set hd with hd | rfl
        · exact h.onCourse d hd
        · exact c.onCourse_withPlan r.pool
      · have hbefore := overtaken_eq_false_of_set (f := id) (fun _ => id) hget
          (c.overtaken_withPlan _) (by rwa [List.map_id])
        refine (h.eq_or_halfway hbefore).imp_right ?_
        rintro ⟨d, hd, hhalf⟩
        refine ⟨d, mem_set_of_ne hget hd ?_, hhalf⟩
        rintro rfl
        simp [Resize.isHalfway, hcalled] at hhalf
  | @refused core max hlate =>
      have htargets := targets_congr (r := r) size r.pool
        (map_target_set (d := c.fail (.invalidBounds core max)) hget rfl)
      refine ⟨h.core_le_max, htargets ▸ h.core_mem, htargets ▸ h.max_mem, fun d hd => ?_,
        fun hall => ?_⟩
      · rcases List.mem_or_eq_of_mem_set hd with hd | rfl
        · exact h.onCourse d hd
        · exact .failed rfl hlate
      · have hfalse : c.overtaken = false :=
          hall (c.fail (.invalidBounds core max)) (List.mem_set hlt _)
        rw [hlate] at hfalse
        cases hfalse
  | @moved q rest horder hcore hmax hrest hhalf hlast =>
      have hget' : (r.calls.map Resize.overtake)[i]? = some c.overtake := by
        rw [List.getElem?_map, hget]
        rfl
      have htargets := targets_congr (r := r) size q
        ((map_target_set (d := c.withPlan rest) hget' (by simp)).trans map_target_overtake)
      have htarget : c.target ∈ r.targets size :=
        List.mem_cons_of_mem _ (List.mem_map_of_mem hmem)
      refine ⟨horder, htargets ▸ ?_, htargets ▸ ?_, fun d hd => ?_, fun hall => ?_⟩
      · rcases hcore with hcore | hcore
        · exact hcore ▸ h.core_mem
        · exact hcore ▸ htarget
      · rcases hmax with hmax | hmax
        · exact hmax ▸ h.max_mem
        · exact hmax ▸ htarget
      · rcases List.mem_or_eq_of_mem_set hd with hd | rfl
        · obtain ⟨before, hbefore, rfl⟩ := List.mem_map.mp hd
          exact (h.onCourse before hbefore).overtake q
        · exact hrest
      · have hx : c.withPlan rest ∈ (r.calls.map Resize.overtake).set i (c.withPlan rest) :=
          List.mem_set (by rwa [List.length_map]) _
        rcases hhalf with hnone | hhalf
        · have hon : c.overtaken = false := (c.overtaken_withPlan rest).symm.trans (hall _ hx)
          obtain ⟨hcore, hmax⟩ := hlast hon hnone
          exact .inl (hcore.trans hmax.symm)
        · exact .inr ⟨_, hx, hhalf⟩

/-- **Every step keeps the bounds sound.** -/
theorem Sound.step (h : r.Sound size) (hstep : r.step act = some next) : next.Sound size := by
  cases act with
  | call n =>
      obtain rfl := Option.some.inj hstep
      have hsub : ∀ m ∈ r.targets size,
          m ∈ targets size { r with calls := r.calls ++ [Resize.ofSize n] } := by
        intro m hm
        rw [targets, List.map_append, ← List.cons_append]
        exact List.mem_append_left _ hm
      refine ⟨h.core_le_max, hsub _ h.core_mem, hsub _ h.max_mem, fun d hd => ?_, fun hall => ?_⟩
      · rcases List.mem_append.mp hd with hd | hd
        · exact h.onCourse d hd
        · obtain rfl := List.mem_singleton.mp hd
          exact .called rfl
      · refine (h.eq_or_halfway fun d hd => hall d (List.mem_append_left _ hd)).imp_right ?_
        rintro ⟨d, hd, hhalf⟩
        exact ⟨d, List.mem_append_left _ hd, hhalf⟩
  | proceed i =>
      obtain ⟨c, hget, hgo⟩ := Option.bind_eq_some_iff.mp hstep
      have hcourse := h.onCourse c (List.mem_of_getElem? hget)
      obtain ⟨same, hsame, hgoes⟩ :=
        exists_goes hcourse h.core_le_max (isOver_eq_false_of_goOn hgo)
      obtain rfl := Option.some.inj (hgo.symm.trans hsame)
      exact h.goes hget hgoes
  | work a =>
      rw [Resizing.step] at hstep
      split_ifs at hstep with hbound
      obtain ⟨turn, hturn, rfl⟩ := Option.map_eq_some_iff.mp hstep
      obtain ⟨hcore, hmax⟩ := bounds_of_step (Bool.eq_false_iff.mpr hbound) hturn
      exact
        { core_le_max := by
            rw [hcore, hmax]
            exact h.core_le_max
          core_mem := hcore ▸ h.core_mem
          max_mem := hmax ▸ h.max_mem
          onCourse := fun d hd => (h.onCourse d hd).congr hcore hmax
          eq_or_halfway := fun hall => by
            rw [hcore, hmax]
            exact h.eq_or_halfway hall }

/-! ### Runs -/

lemma sound_ofPool (size keepAlive : Nat) :
    (ofPool (Pool.ofSize (J := J) size keepAlive)).Sound size where
  core_le_max := Nat.le_refl _
  core_mem := List.mem_cons_self
  max_mem := List.mem_cons_self
  onCourse := by simp [ofPool]
  eq_or_halfway _ := .inl rfl

lemma Sound.run {acts : List (Act J)} (h : r.Sound size) (hrun : r.run acts = some next) :
    next.Sound size := by
  induction acts generalizing r with
  | nil =>
      cases hrun
      exact h
  | cons act acts ih =>
      obtain ⟨middle, hstep, hrest⟩ := Option.bind_eq_some_iff.mp hrun
      exact ih (h.step hstep) hrest

/-! ### A call that nobody disturbs -/

/-- What a call that is over has come to. -/
def outcome? (c : Resize J) : Option (Except PoolError Unit) :=
  match c.progress with
  | .returned => some (.ok ())
  | .failed e => some (.error e)
  | .called | .going _ _ => none

lemma step_of_movesBound {a : Action J} (h : a.movesBound = true) :
    ∃ q happened, p.step a = some (q, happened) := by
  cases a with
  | setCore core | setMax max => exact ⟨_, _, rfl⟩
  | _ => cases h

/-- A call that takes the lock time and again carries its plan out. -/
lemma exists_run_carryOut : ∀ (plan : List (Action J)) {r : Resizing J} {c : Resize J},
    (∀ a ∈ plan, a.movesBound = true) → r.calls[i]? = some (c.withPlan plan) →
      ∃ acts next d, r.run acts = some next ∧ next.pool = (r.pool.carryOut plan).2
        ∧ next.calls[i]? = some d ∧ outcome? d = some (r.pool.carryOut plan).1
  | [], r, c, _, hget => ⟨[], r, _, rfl, rfl, hget, rfl⟩
  | a :: rest, r, c, hbounds, hget => by
      obtain ⟨q, happened, hstep⟩ := step_of_movesBound (p := r.pool) (hbounds a List.mem_cons_self)
      have hlt := (List.getElem?_eq_some_iff.mp hget).1
      by_cases hrefused : ∃ e, happened = [.refused e]
      · obtain ⟨e, rfl⟩ := hrefused
        refine ⟨[.proceed i], ⟨r.pool, r.calls.set i ((c.withPlan (a :: rest)).fail e)⟩, _, ?_, ?_,
          List.getElem?_set_self hlt, ?_⟩
        · simp only [run, step, hget, Option.bind_some, goOn, Resize.withPlan, hstep]
        · rw [carryOut, hstep]
        · rw [carryOut, hstep]
          rfl
      · -- The section moves its bound, and the rest of the plan follows.
        have hcarry : r.pool.carryOut (a :: rest) = q.carryOut rest := by
          rw [carryOut, hstep]
          split
          next heq =>
            cases heq
            exact absurd ⟨_, rfl⟩ hrefused
          next heq =>
            cases heq
            rfl
          next heq => cases heq
        have hnext : r.step (.proceed i)
            = some ⟨q, (r.calls.map Resize.overtake).set i (c.withPlan rest)⟩ := by
          simp only [step, hget, Option.bind_some, goOn, Resize.withPlan, hstep]
          split
          next heq =>
            cases heq
            exact absurd ⟨_, rfl⟩ hrefused
          next heq =>
            cases heq
            cases rest <;> rfl
          next heq => cases heq
        obtain ⟨acts, last, d, hrun, hpool, hlast, houtcome⟩ :=
          exists_run_carryOut rest (r := ⟨q, (r.calls.map Resize.overtake).set i (c.withPlan rest)⟩)
            (c := c) (fun b hb => hbounds b (List.mem_cons_of_mem _ hb))
            (List.getElem?_set_self (by rwa [List.length_map]))
        refine ⟨.proceed i :: acts, last, d, ?_, hcarry ▸ hpool, hlast, hcarry ▸ houtcome⟩
        rw [run, hnext]
        exact hrun

/-- **A resize that nobody disturbs is one of the interleavings**: it leaves the pool, and comes to
the outcome, that the three sections of `Pool.resize` have one after the other. -/
theorem exists_run_eq_resize (r : Resizing J) (size : Nat) :
    ∃ acts next d, r.run acts = some next ∧ next.pool = (r.pool.resize size).2
      ∧ next.calls[r.calls.length]? = some d ∧ outcome? d = some (r.pool.resize size).1 := by
  have hplan : ∀ a ∈ resizePlan (J := J) r.pool.core (Nat.max size 1), a.movesBound = true := by
    rw [resizePlan]
    split_ifs <;> simp [Action.movesBound]
  have hget : ((r.calls ++ [Resize.ofSize size]).set r.calls.length
      ((Resize.ofSize size).withPlan (resizePlan r.pool.core (Nat.max size 1))))[r.calls.length]?
        = some ((Resize.ofSize size).withPlan (resizePlan r.pool.core (Nat.max size 1))) :=
    List.getElem?_set_self (by simp)
  obtain ⟨acts, next, d, hrun, hpool, hlast, houtcome⟩ :=
    exists_run_carryOut _ (r := ⟨r.pool, _⟩) hplan hget
  refine ⟨.call size :: .proceed r.calls.length :: acts, next, d, ?_, hpool, hlast, houtcome⟩
  rw [run, step, Option.bind_some, run, step, List.getElem?_concat_length]
  exact hrun

/-! ### The bounds -/

/-- What is true of the bounds of a pool that began with a size and was resized since then. -/
structure Bounded (size : Nat) (r : Resizing J) : Prop where
  core_le_max : r.pool.core ≤ r.pool.max
  core_mem : r.pool.core ∈ r.targets size
  max_mem : r.pool.max ∈ r.targets size
  /-- No call is held up by another one. -/
  goes_on : ∀ i c, r.calls[i]? = some c → c.isOver = false →
    ∃ next, r.step (.proceed i) = some next
  /-- Only a call that was overtaken fails. -/
  overtaken_of_failed : ∀ c ∈ r.calls, ∀ e, c.progress = .failed e →
    c.overtaken = true ∧ ∃ core max, e = .invalidBounds core max
  /-- A call that moves the bounds and is not overtaken leaves both of them where it wants them. -/
  eq_target_of_last : ∀ i c next, r.calls[i]? = some c → c.overtaken = false →
    c.isHalfway = true → r.step (.proceed i) = some next →
      next.pool.core = c.target ∧ next.pool.max = c.target
  /-- As long as no call was overtaken, the bounds are the same whenever no call is under way. -/
  core_eq_max : (∀ c ∈ r.calls, c.overtaken = false ∧ c.isOver = true) →
    r.pool.core = r.pool.max

lemma Sound.eq_target_of_last (h : r.Sound size) (hget : r.calls[i]? = some c)
    (hon : c.overtaken = false) (hhalf : c.isHalfway = true)
    (hstep : r.step (.proceed i) = some next) :
    next.pool.core = c.target ∧ next.pool.max = c.target := by
  have hgo : r.goOn i c = some next := by
    rw [Resizing.step, hget] at hstep
    exact hstep
  obtain ⟨a, hgoing⟩ : ∃ a, c.progress = .going a [] := by
    rw [Resize.isHalfway] at hhalf
    split at hhalf
    next a hgoing => exact ⟨a, hgoing⟩
    next => cases hhalf
  rcases (h.onCourse c (List.mem_of_getElem? hget)).section_spec hgoing h.core_le_max with
    ⟨hlate, -⟩ | ⟨q, hturn, -, -, -, -, -, hlast⟩
  · rw [hon] at hlate
    cases hlate
  · simp only [goOn, hgoing, hturn] at hgo
    cases hgo
    exact hlast hon rfl

/-- **Resizing at the same time.**  However many calls resize a running pool, and however their
sections and those of its workers and its other callers interleave: the core size never exceeds the
maximum, and each of them is the first size or one that was asked for.  Every call comes to its end,
and it fails only if another one has moved a bound since it read the core size.  As long as that has
not happened, the bounds are the same whenever no call is under way.

Calls that overtake each other may fail, and may leave bounds that differ. -/
theorem bounded_of_run {size keepAlive : Nat} {acts : List (Act J)}
    (h : (ofPool (.ofSize size keepAlive)).run acts = some r) : r.Bounded size := by
  have hsound : r.Sound size := (sound_ofPool size keepAlive).run h
  refine ⟨hsound.core_le_max, hsound.core_mem, hsound.max_mem, fun i c hget hover => ?_,
    fun c hc e hfailed => ?_, fun i c next => hsound.eq_target_of_last, fun hall => ?_⟩
  · obtain ⟨next, hgo, -⟩ :=
      exists_goes (i := i) (hsound.onCourse c (List.mem_of_getElem? hget)) hsound.core_le_max hover
    exact ⟨next, by rw [step, hget]; exact hgo⟩
  · cases hsound.onCourse c hc with
    | failed hbounds hlate =>
        rw [hbounds] at hfailed
        cases hfailed
        exact ⟨hlate, _, _, rfl⟩
    | called h | returned h | aboutToGrow h _ | growing h _ | aboutToShrink h _ | shrinking h _ =>
        rw [h] at hfailed
        cases hfailed
  · rcases hsound.eq_or_halfway fun c hc => (hall c hc).1 with hsame | ⟨c, hc, hhalf⟩
    · exact hsame
    · have hover := (hall c hc).2
      rw [Resize.isOver_eq_false_of_isHalfway hhalf] at hover
      cases hover

/-- A call for five workers overtakes a call for four, which fails; a third one, for seven, has its
last section before it while a worker starts. -/
theorem bounded_of_run_of_overtaken_call :
    let start : Resizing String := ofPool (.ofSize 3 1000)
    let late : Resize String := ⟨4, .failed (.invalidBounds 5 4), true⟩
    let halfway : Resize String := ⟨7, .going (.setCore 7) [], false⟩
    ∃ r, start.run [.call 5, .call 4, .proceed 0, .proceed 1, .proceed 0, .proceed 0, .proceed 1,
        .work (.submit "job"), .call 7, .proceed 2, .proceed 2, .work (.look 1)] = some r
      ∧ r.calls = [⟨5, .returned, false⟩, late, halfway] ∧ late.overtaken = true
      ∧ r.pool.core ≤ r.pool.max ∧ r.pool.core ∈ [3, 5, 4, 7] ∧ r.pool.max ∈ [3, 5, 4, 7]
      ∧ ∃ next, r.step (.proceed 2) = some next ∧ next.pool.core = 7 ∧ next.pool.max = 7 := by
  intro start late halfway
  obtain ⟨r, hrun, hcalls⟩ : ∃ r, start.run [.call 5, .call 4, .proceed 0, .proceed 1, .proceed 0,
      .proceed 0, .proceed 1, .work (.submit "job"), .call 7, .proceed 2, .proceed 2,
      .work (.look 1)] = some r ∧ r.calls = [⟨5, .returned, false⟩, late, halfway] := ⟨_, rfl, rfl⟩
  have hbounded : r.Bounded 3 := bounded_of_run hrun
  have htargets : r.targets 3 = [3, 5, 4, 7] := by
    rw [targets, hcalls]
    rfl
  have hlate := hbounded.overtaken_of_failed late (by simp [hcalls]) _ rfl
  have hget : r.calls[2]? = some halfway := by
    rw [hcalls]
    rfl
  obtain ⟨next, hnext⟩ := hbounded.goes_on 2 halfway hget rfl
  exact ⟨r, hrun, hcalls, hlate.1, hbounded.core_le_max, htargets ▸ hbounded.core_mem,
    htargets ▸ hbounded.max_mem, next, hnext,
    hbounded.eq_target_of_last 2 halfway next hget rfl rfl hnext⟩

/-- **Calls that overtake each other.**  The two calls of the first run both return, and leave a
core size that is not the maximum.  In the second run a call fails. -/
theorem bounds_ne_after_overtaking :
    let start : Resizing String := ofPool (.ofSize 3 1000)
    (∃ r, start.run [.call 4, .call 5, .proceed 0, .proceed 1, .proceed 0, .proceed 1, .proceed 1,
          .proceed 0] = some r
        ∧ r.calls.map (·.progress) = [.returned, .returned] ∧ r.pool.core = 4 ∧ r.pool.max = 5)
      ∧ ∃ r, start.run [.call 5, .call 4, .proceed 0, .proceed 1, .proceed 0, .proceed 0,
          .proceed 1] = some r
        ∧ r.calls.map (·.progress) = [.returned, .failed (.invalidBounds 5 4)] := by
  intro start
  exact ⟨⟨_, rfl, rfl, rfl, rfl⟩, _, rfl, rfl⟩

end Pool.Resizing

end ReviewStream
