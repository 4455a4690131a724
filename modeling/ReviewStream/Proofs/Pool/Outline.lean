import Mathlib.Data.Multiset.ZeroCons
import Mathlib.Tactic.Simps.Basic
import ReviewStream.Proofs.Pool.Workers

/-!
# The outline of a pool

Which worker does something hardly ever matters, only how many workers are at what.  The outline
of a pool forgets the workers and keeps their counts and the jobs that are running, and every
operation on workers is an operation on the outline.

* `Outline`: a pool seen through its queue, its bounds and its counts.
* `Outline.Step`: everything that a section can do, with the guard under which it does so.
* `Pool.outline_spawn`, `outline_wakeAll`, `outline_setPhase` and so on: what the operations on
  workers do to the outline.
-/

namespace ReviewStream

variable {J : Type}

/-! ## Counting workers -/

/-- The job that a worker runs. -/
def Phase.job? : Phase J → Option J
  | .running job => some job
  | _ => none

namespace Worker

@[simp] lemma job?_wake (w : Worker J) : w.wake.phase.job? = w.phase.job? := by
  obtain ⟨id, phase⟩ := w
  cases phase <;> rfl

@[simp] lemma isParked_wake (w : Worker J) : w.wake.isParked = false := by
  obtain ⟨id, phase⟩ := w
  cases phase <;> rfl

/-- Whoever was parked looks for a job once it is woken. -/
@[simp] lemma isLooking_wake (w : Worker J) :
    w.wake.isLooking = (w.isLooking || w.isParked) := by
  obtain ⟨id, phase⟩ := w
  cases phase <;> rfl

lemma isLooking_of_isParked {w : Worker J} (h : w.isParked = true) : w.isLooking = false := by
  obtain ⟨id, phase⟩ := w
  cases phase <;> simp_all [isParked, isLooking]

lemma filterMap_map_wake (ws : List (Worker J)) :
    (ws.map (·.wake)).filterMap (·.phase.job?) = ws.filterMap (·.phase.job?) := by
  simp [List.filterMap_map]

/-- After waking all workers none is parked, and those that were look for a job. -/
lemma counts_map_wake (ws : List (Worker J)) :
    (ws.map (·.wake)).countP (·.isParked) = 0
      ∧ (ws.map (·.wake)).countP (·.isLooking)
        = ws.countP (·.isLooking) + ws.countP (·.isParked) := by
  induction ws with
  | nil => exact ⟨rfl, rfl⟩
  | cons w ws ih =>
      obtain ⟨hparked, hlooking⟩ := ih
      simp only [List.map_cons, List.countP_cons, isParked_wake, isLooking_wake, hparked, hlooking]
      cases h : w.isParked with
      | false => simp; omega
      | true => simp [isLooking_of_isParked h]; omega

/-- Waking the first parked worker interrupts no job. -/
lemma filterMap_wakeFirst : ∀ ws : List (Worker J),
    (wakeFirst ws).filterMap (·.phase.job?) = ws.filterMap (·.phase.job?)
  | [] => rfl
  | w :: ws => by
      rw [wakeFirst]
      split_ifs
      · simp [List.filterMap_cons]
      · simp [List.filterMap_cons, filterMap_wakeFirst ws]

/-- One worker fewer is parked, if any was. -/
lemma counts_wakeFirst (ws : List (Worker J)) :
    (wakeFirst ws).countP (·.isParked) = ws.countP (·.isParked) - 1
      ∧ (wakeFirst ws).countP (·.isLooking)
        = ws.countP (·.isLooking) + min (ws.countP (·.isParked)) 1 := by
  induction ws with
  | nil => exact ⟨rfl, rfl⟩
  | cons w ws ih =>
      obtain ⟨hparked, hlooking⟩ := ih
      rw [wakeFirst]
      cases h : w.isParked with
      | false =>
          simp only [List.countP_cons, h, hparked, hlooking, Bool.false_eq_true, if_false]
          omega
      | true =>
          simp only [List.countP_cons, h, isParked_wake, isLooking_wake, isLooking_of_isParked h,
            if_true, Bool.or_true, Bool.false_eq_true, if_false]
          omega

end Worker

namespace Pool

/-- The jobs that are running. -/
def running (p : Pool J) : Multiset J := ↑(p.workers.filterMap (·.phase.job?))

/-- How many workers wait to be woken. -/
def parked (p : Pool J) : Nat := p.workers.countP (·.isParked)

/-- How many workers are about to look for a job: those that have just been started or woken, and
those whose keep-alive time has run out. -/
def looking (p : Pool J) : Nat := p.workers.countP (·.isLooking)

/-- Every worker runs a job, is parked or looks for a job. -/
lemma active_add_parked_add_looking (p : Pool J) :
    p.active + p.parked + p.looking = p.size := by
  have hone : ∀ w : Worker J, (if w.isRunning then 1 else 0) + (if w.isParked then 1 else 0)
      + (if w.isLooking then 1 else 0) = 1 := by
    rintro ⟨id, phase⟩
    cases phase <;> rfl
  rw [active, parked, looking, size]
  induction p.workers with
  | nil => rfl
  | cons w ws ih =>
      have := hone w
      simp only [List.countP_cons, List.length_cons]
      omega

/-- As many jobs run as there are workers that run one. -/
lemma card_running (p : Pool J) : p.running.card = p.active := by
  rw [running, active]
  rw [Multiset.coe_card, List.length_filterMap_eq_countP]
  refine List.countP_congr fun w _ => ?_
  obtain ⟨id, phase⟩ := w
  cases phase <;> simp [Phase.job?, Worker.isRunning]

end Pool

/-! ## Outlines -/

/-- A pool without the identities of its workers. -/
@[ext]
structure Outline (J : Type) where
  queue : List J
  core : Nat
  max : Nat
  keepAlive : Nat
  stage : Stage
  /-- The jobs that are running. -/
  running : Multiset J
  /-- How many workers wait to be woken. -/
  parked : Nat
  /-- How many workers are about to look for a job. -/
  looking : Nat
  largest : Nat

namespace Outline

variable {o : Outline J}

/-- How many workers there are. -/
def size (o : Outline J) : Nat := o.running.card + o.parked + o.looking

/-- One more worker. -/
def plus (o : Outline J) : Phase J → Outline J
  | .running job => { o with running := job ::ₘ o.running }
  | .parked => { o with parked := o.parked + 1 }
  | .waking | .expired => { o with looking := o.looking + 1 }

/-- `n` new workers, which will look for a job. -/
@[simps]
def hire (n : Nat) (o : Outline J) : Outline J :=
  { o with
    looking := o.looking + n
    largest := if n = 0 then o.largest else Max.max o.largest (o.size + n) }

/-- All parked workers are woken. -/
@[simps]
def wakeAll (o : Outline J) : Outline J :=
  { o with parked := 0, looking := o.looking + o.parked }

/-- A parked worker is woken, if there is any. -/
@[simps]
def wakeOne (o : Outline J) : Outline J :=
  { o with parked := o.parked - 1, looking := o.looking + min o.parked 1 }

@[simp] lemma queue_plus (o : Outline J) (phase : Phase J) : (o.plus phase).queue = o.queue := by
  cases phase <;> rfl

@[simp] lemma core_plus (o : Outline J) (phase : Phase J) : (o.plus phase).core = o.core := by
  cases phase <;> rfl

@[simp] lemma max_plus (o : Outline J) (phase : Phase J) : (o.plus phase).max = o.max := by
  cases phase <;> rfl

@[simp] lemma stage_plus (o : Outline J) (phase : Phase J) : (o.plus phase).stage = o.stage := by
  cases phase <;> rfl

@[simp] lemma size_plus (o : Outline J) (phase : Phase J) :
    (o.plus phase).size = o.size + 1 := by
  cases phase <;> simp [plus, size] <;> omega

@[simp] lemma size_hire (n : Nat) (o : Outline J) : (o.hire n).size = o.size + n := by
  simp only [size, hire_running, hire_parked, hire_looking]
  omega

@[simp] lemma size_wakeAll (o : Outline J) : o.wakeAll.size = o.size := by
  simp only [size, wakeAll_running, wakeAll_parked, wakeAll_looking]
  omega

@[simp] lemma size_wakeOne (o : Outline J) : o.wakeOne.size = o.size := by
  simp only [size, wakeOne_running, wakeOne_parked, wakeOne_looking]
  omega

@[simp] lemma hire_zero (o : Outline J) : o.hire 0 = o := rfl

/-- Workers may be hired one after the other. -/
lemma hire_hire (m n : Nat) (o : Outline J) : (o.hire m).hire n = o.hire (m + n) := by
  ext1 <;> simp only [hire_queue, hire_core, hire_max, hire_keepAlive, hire_stage, hire_running,
    hire_parked, hire_looking, hire_largest, size_hire, Nat.add_assoc]
  split_ifs <;> omega

/-! ## Steps -/

/-- What comes of a worker that looks for a job, beside the workers of `rest`. -/
inductive Advance (id : Nat) (rest : Outline J) : Outline J → List (Pool.Occurrence J) → Prop
  /-- There is no place for the worker, or nothing more to do. -/
  | leave (h : rest.stage = .stopped ∨ rest.max < rest.size + 1
        ∨ rest.queue = [] ∧ rest.stage = .shutdown) :
      Advance id rest rest []
  | start {job : J} {queue : List J} (hstage : rest.stage ≠ .stopped)
      (hsize : rest.size + 1 ≤ rest.max) (hqueue : rest.queue = job :: queue) :
      Advance id rest ({ rest with queue }.plus (.running job)) [.started id job]
  | park (hstage : rest.stage = .running) (hsize : rest.size + 1 ≤ rest.max)
      (hqueue : rest.queue = []) :
      Advance id rest (rest.plus .parked) []

/-- What a section can do to a pool, seen in outline. -/
inductive Step (o : Outline J) :
    Pool.Action J → Outline J → List (Pool.Occurrence J) → Prop
  | reject {job : J} (h : o.stage ≠ .running) : Step o (.submit job) o [.refused .rejected]
  | submitHire {job : J} (h : o.stage = .running) (hsize : o.size < o.core ∨ o.size = 0) :
      Step o (.submit job) ({ o with queue := o.queue ++ [job] }.hire 1) [.accepted job]
  | submitWake {job : J} (h : o.stage = .running) (hsize : o.core ≤ o.size)
      (hpos : 0 < o.size) :
      Step o (.submit job) { o with queue := o.queue ++ [job] }.wakeOne [.accepted job]
  | refuseCore {core : Nat} (h : o.max < core) :
      Step o (.setCore core) o [.refused (.invalidBounds core o.max)]
  | growCore {core : Nat} (hmax : core ≤ o.max) (hcore : o.core < core)
      (h : o.stage = .running) :
      Step o (.setCore core)
        ({ o with core }.hire (min (min (core - o.core) o.queue.length) (core - o.size))) []
  | shrinkCore {core : Nat} (hmax : core ≤ o.max) (hcore : core < o.core) :
      Step o (.setCore core) { o with core }.wakeAll []
  | keepCore {core : Nat} (hmax : core ≤ o.max) (hcore : o.core ≤ core)
      (h : o.core = core ∨ o.stage ≠ .running) :
      Step o (.setCore core) { o with core } []
  | refuseMax {max : Nat} (h : max = 0 ∨ max < o.core) :
      Step o (.setMax max) o [.refused (.invalidBounds o.core max)]
  | lowerMax {max : Nat} (hpos : 0 < max) (hcore : o.core ≤ max) (hsize : max < o.size) :
      Step o (.setMax max) { o with max }.wakeAll []
  | keepMax {max : Nat} (hpos : 0 < max) (hcore : o.core ≤ max) (hsize : o.size ≤ max) :
      Step o (.setMax max) { o with max } []
  | shortenKeepAlive {keepAlive : Nat} (h : keepAlive < o.keepAlive) :
      Step o (.setKeepAlive keepAlive) { o with keepAlive }.wakeAll []
  | prolongKeepAlive {keepAlive : Nat} (h : o.keepAlive ≤ keepAlive) :
      Step o (.setKeepAlive keepAlive) { o with keepAlive } []
  | shutdown :
      Step o .shutdown
        { o with stage := if o.stage = Stage.running then Stage.shutdown else o.stage }.wakeAll []
  | shutdownNow :
      Step o .shutdownNow { o with stage := .stopped, queue := [] }.wakeAll [.dropped o.queue]
  | expire {id : Nat} {rest : Outline J} (h : o = rest.plus .parked) :
      Step o (.expire id) (rest.plus .expired) []
  /-- The keep-alive time of the worker is over, and there is nothing to do. -/
  | retire {id : Nat} {rest : Outline J} (h : o = rest.plus .expired) (hqueue : rest.queue = [])
      (hstage : rest.stage = .running) :
      Step o (.look id) rest []
  | look {id : Nat} {rest next : Outline J} {happened : List (Pool.Occurrence J)}
      (h : o = rest.plus .waking) (hadvance : Advance id rest next happened) :
      Step o (.look id) next happened
  | finish {id : Nat} {job : J} {ending : Pool.Ending} {rest next : Outline J}
      {happened : List (Pool.Occurrence J)} (h : o = rest.plus (.running job))
      (hadvance : Advance id rest next happened) :
      Step o (.finish id ending) next (.finished id job ending :: happened)

end Outline

/-! ## Outlines of pools -/

namespace Pool

variable {p q : Pool J} {id : Nat} {w : Worker J}

/-- The outline of a pool. -/
@[simps]
def outline (p : Pool J) : Outline J where
  queue := p.queue
  core := p.core
  max := p.max
  keepAlive := p.keepAlive
  stage := p.stage
  running := p.running
  parked := p.parked
  looking := p.looking
  largest := p.largest

@[simp] lemma size_outline (p : Pool J) : p.outline.size = p.size := by
  rw [Outline.size, ← active_add_parked_add_looking, ← card_running]
  rfl

/-- The outline does not depend on the order of the workers, and one worker can be counted apart
from the others. -/
lemma outline_of_perm {phase : Phase J} {others : List (Worker J)}
    (h : p.workers.Perm (⟨id, phase⟩ :: others)) :
    p.outline = { p with workers := others }.outline.plus phase := by
  have hrunning : p.running = ↑((⟨id, phase⟩ :: others).filterMap (·.phase.job?)) :=
    Multiset.coe_eq_coe.mpr (h.filterMap _)
  have hparked : p.parked = List.countP (·.isParked) (⟨id, phase⟩ :: others) := h.countP_eq _
  have hlooking : p.looking = List.countP (·.isLooking) (⟨id, phase⟩ :: others) := h.countP_eq _
  rw [List.countP_cons] at hparked hlooking
  cases phase <;> exact Outline.ext rfl rfl rfl rfl rfl hrunning hparked hlooking rfl

/-- A worker, apart from the others. -/
lemma outline_eq_dismiss_plus (hp : p.Numbered) (h : p.worker? id = some w) :
    p.outline = (p.dismiss id).outline.plus w.phase :=
  outline_of_perm (workers_perm hp h)

lemma outline_setPhase (hp : p.Numbered) (h : id ∈ p.ids) (phase : Phase J) :
    (p.setPhase id phase).outline = (p.dismiss id).outline.plus phase :=
  outline_of_perm (setPhase_perm hp h phase)

lemma outline_park (p : Pool J) (id : Nat) :
    (p.park id).outline = (p.dismiss id).outline.plus .parked :=
  outline_of_perm (park_perm p id)

lemma outline_spawn (p : Pool J) : p.spawn.outline = p.outline.hire 1 := by
  ext1 <;> simp [spawn, running, parked, looking, Phase.job?, Worker.isParked, Worker.isLooking]
  rfl

/-- New workers are started while there are fewer than `core`. -/
lemma outline_spawnUpTo : ∀ (n : Nat) (p : Pool J),
    (spawnUpTo n p).outline = p.outline.hire (min n (p.core - p.size))
  | 0, p => by simp [spawnUpTo]
  | n + 1, p => by
      rw [spawnUpTo]
      split_ifs with h
      · have hsize : p.spawn.size = p.size + 1 := by simp [spawn, size]
        have hcore : p.spawn.core = p.core := rfl
        rw [outline_spawnUpTo n p.spawn, outline_spawn, Outline.hire_hire, hsize, hcore]
        congr 1
        omega
      · have hnone : min (n + 1) (p.core - p.size) = 0 := by omega
        rw [hnone, Outline.hire_zero]

lemma outline_wakeAll (p : Pool J) : p.wakeAll.outline = p.outline.wakeAll := by
  obtain ⟨hparked, hlooking⟩ := Worker.counts_map_wake p.workers
  have hrunning := congrArg Multiset.ofList (Worker.filterMap_map_wake p.workers)
  exact Outline.ext rfl rfl rfl rfl rfl hrunning hparked hlooking rfl

lemma outline_wakeOne (p : Pool J) : p.wakeOne.outline = p.outline.wakeOne := by
  obtain ⟨hparked, hlooking⟩ := Worker.counts_wakeFirst p.workers
  have hrunning := congrArg Multiset.ofList (Worker.filterMap_wakeFirst p.workers)
  exact Outline.ext rfl rfl rfl rfl rfl hrunning hparked hlooking rfl

end Pool

end ReviewStream
