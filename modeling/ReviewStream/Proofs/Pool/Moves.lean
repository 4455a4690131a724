import Mathlib.Data.Multiset.AddSub
import ReviewStream.Pool.Rest
import ReviewStream.Pool.Threads
import ReviewStream.Proofs.Pool.Sizing

/-!
# Sections, with or without their threads

What is said of sections extends to those in which the system refuses a thread.  Where jobs are is
a balance: a job that is accepted is in the queue until it is started or given back, and one that is
started is running until it ends.

* `Outline.Move`: what a section can do if threads may be refused.
* `Pool.outline_move`: every such section is a move of the outline.
* `Outline.Move.running_add_started`: what one section does to the jobs that are running.
* **`Pool.Balanced.move`**: every section keeps the balance.
* **`Outline.Move.of_size_eq_zero`**: no section brings a pool to life that is terminated.
-/

namespace ReviewStream

variable {J : Type}

/-- How far the end of a pool has come, in numbers. -/
def Stage.rank : Stage → Nat
  | .running => 0
  | .shutdown => 1
  | .stopped => 2

namespace Outline

open Pool

variable {id : Nat} {a : Action J} {m : Pool.Move J} {o rest next : Outline J}
  {happened : List (Occurrence J)}

/-! ## Steps -/

lemma Advance.running_add_started (h : Advance id rest next happened) :
    endedJobs happened = [] ∧ rest.running + ↑(startedJobs happened) = next.running := by
  cases h with
  | leave _ => exact ⟨rfl, Multiset.add_zero _⟩
  | @start job queue _ _ _ => exact ⟨rfl, Multiset.add_comm rest.running {job}⟩
  | park _ _ _ => exact ⟨rfl, Multiset.add_zero _⟩

/-- What a section does to the jobs that are running. -/
lemma Step.running_add_started (h : o.Step a next happened) :
    o.running + ↑(startedJobs happened) = ↑(endedJobs happened) + next.running := by
  cases h with
  | expire h =>
      subst h
      simp [plus, startedJobs, endedJobs]
  | retire h _ _ =>
      subst h
      simp [plus, startedJobs, endedJobs]
  | look h hadvance =>
      obtain ⟨hended, hrunning⟩ := hadvance.running_add_started
      rw [h, hended, ← hrunning]
      exact (Multiset.zero_add _).symm
  | @finish i job ending _ _ later h hadvance =>
      obtain ⟨hended, hrunning⟩ := hadvance.running_add_started
      have hended' : endedJobs (.finished i job ending :: later) = job :: endedJobs later := rfl
      have hstarted' : startedJobs (.finished i job ending :: later) = startedJobs later := rfl
      rw [h, hended', hstarted', hended, ← hrunning]
      simp [plus]
  | _ => simp [startedJobs, endedJobs]

/-- A pool becomes stopped by being shut down, and by nothing else. -/
lemma Step.stage_eq (h : o.Step a next happened) (hshutdown : a ≠ .shutdown)
    (hshutdownNow : a ≠ .shutdownNow) : next.stage = o.stage := by
  cases h with
  | shutdown => exact absurd rfl hshutdown
  | shutdownNow => exact absurd rfl hshutdownNow
  | expire h =>
      subst h
      simp
  | retire h _ _ =>
      subst h
      simp
  | look h hadvance | finish h hadvance =>
      rw [h, stage_plus]
      exact hadvance.frame.1
  | _ => rfl

lemma Step.stage_shutdown (h : o.Step .shutdown next happened) :
    next.stage = if o.stage = .running then .shutdown else o.stage := by
  cases h
  rfl

lemma Step.stage_shutdownNow (h : o.Step .shutdownNow next happened) : next.stage = .stopped := by
  cases h
  rfl

/-- Once a pool is shut down and has no workers, no section gives it any, and none starts a job. -/
lemma Step.of_size_eq_zero (h : o.Step a next happened) (hstage : o.stage ≠ .running)
    (hsize : o.size = 0) :
    next.size = 0 ∧ startedJobs happened = [] := by
  cases h with
  | submitHire hrun _ | submitWake hrun _ _ | growCore _ _ hrun => exact absurd hrun hstage
  | expire h | retire h _ _ | look h _ | finish h _ =>
      rw [h, size_plus] at hsize
      exact absurd hsize (Nat.succ_ne_zero _)
  | shrinkCore _ _ | lowerMax _ _ _ | shortenKeepAlive _ | shutdown | shutdownNow =>
      exact ⟨(size_wakeAll _).trans hsize, rfl⟩
  | _ => exact ⟨hsize, rfl⟩

/-! ## Moves -/

/-- What a section can do to a pool if threads may be refused. -/
inductive Move (o : Outline J) : Pool.Move J → Outline J → List (Occurrence J) → Prop
  | served {a : Action J} {next : Outline J} {happened : List (Occurrence J)}
      (h : o.Step a next happened) : Move o (.served a) next happened
  | refuseJob {job : J} {reason : String} (h : o.stage = .running) (hsize : o.size = 0) :
      Move o (.submitStarved job reason) o [.refused (.spawnFailed reason)]
  | wakeForJob {job : J} {reason : String} (h : o.stage = .running) (hsize : 0 < o.size) :
      Move o (.submitStarved job reason) { o with queue := o.queue ++ [job] }.wakeOne
        [.accepted job]
  | growLess {core started : Nat} {reason : String} (h : o.stage = .running) (hmax : core ≤ o.max)
      (hsize : o.size + started ≤ core) :
      Move o (.setCoreStarved core started reason) ({ o with core }.hire started)
        [.refused (.spawnFailed reason)]

/-- What the queue loses is started or given back. -/
lemma Move.queue_append_accepted (h : o.Move m next happened) :
    o.queue ++ acceptedJobs happened
      = startedJobs happened ++ droppedJobs happened ++ next.queue := by
  cases h with
  | served h => exact h.queue_append_accepted
  | _ => simp [acceptedJobs, startedJobs, droppedJobs]

/-- **What a section does to the jobs that are running**: those that are started join them, and
those that end leave them. -/
theorem Move.running_add_started (h : o.Move m next happened) :
    o.running + ↑(startedJobs happened) = ↑(endedJobs happened) + next.running := by
  cases h with
  | served h => exact h.running_add_started
  | _ => simp [startedJobs, endedJobs]

lemma Move.supplied (h : o.Move m next happened) (hsupplied : o.Supplied) : next.Supplied := by
  cases h with
  | served h => exact hsupplied.step h
  | refuseJob _ _ => exact hsupplied
  | wakeForJob hrun hsize => exact hsupplied.queueAndWake (by simp [hrun]) hsize
  | growLess _ hmax hsize => exact hsupplied.hireUpTo hmax (.inr hsize)

lemma Move.of_stopped (h : o.Move m next happened) (hstop : o.stage = .stopped) :
    startedJobs happened = [] ∧ next.stage = .stopped := by
  cases h with
  | served h => exact h.of_stopped hstop
  | refuseJob hrun _ | wakeForJob hrun _ | growLess hrun _ _ =>
      exact absurd hstop (by simp [hrun])

lemma Move.stopped_of_dropped {jobs : List J} (h : o.Move m next happened)
    (hdropped : .dropped jobs ∈ happened) : next.stage = .stopped := by
  cases h with
  | served h => exact h.stopped_of_dropped hdropped
  | _ => simp at hdropped

lemma Move.stage_eq (h : o.Move m next happened) (hshutdown : m ≠ .served .shutdown)
    (hshutdownNow : m ≠ .served .shutdownNow) : next.stage = o.stage := by
  cases h with
  | served h =>
      exact h.stage_eq (fun ha => hshutdown (ha ▸ rfl)) (fun ha => hshutdownNow (ha ▸ rfl))
  | _ => rfl

/-- **The end of a pool only comes nearer.** -/
theorem Move.rank_le (h : o.Move m next happened) : o.stage.rank ≤ next.stage.rank := by
  by_cases hshutdown : m = .served .shutdown
  · subst hshutdown
    cases h with
    | served h =>
        rw [h.stage_shutdown]
        split_ifs with hrun
        · rw [hrun]
          exact Nat.zero_le _
        · exact Nat.le_refl _
  by_cases hshutdownNow : m = .served .shutdownNow
  · subst hshutdownNow
    cases h with
    | served h =>
        rw [h.stage_shutdownNow]
        cases o.stage <;> simp [Stage.rank]
  · rw [h.stage_eq hshutdown hshutdownNow]

/-- A pool is shut down by the sections that do so, and by no other. -/
lemma Move.stage_ne_running_iff (h : o.Move m next happened) :
    next.stage ≠ .running ↔
      o.stage ≠ .running ∨ m = .served .shutdown ∨ m = .served .shutdownNow := by
  by_cases hshutdown : m = .served .shutdown
  · subst hshutdown
    cases h with
    | served h =>
        rw [h.stage_shutdown]
        split_ifs with hrun <;> simp [hrun]
  by_cases hshutdownNow : m = .served .shutdownNow
  · subst hshutdownNow
    cases h with
    | served h => simp [h.stage_shutdownNow]
  · simp [h.stage_eq hshutdown hshutdownNow, hshutdown, hshutdownNow]

/-- **No section brings a pool to life that is terminated.** -/
theorem Move.of_size_eq_zero (h : o.Move m next happened) (hstage : o.stage ≠ .running)
    (hsize : o.size = 0) :
    next.size = 0 ∧ startedJobs happened = [] := by
  cases h with
  | served h => exact h.of_size_eq_zero hstage hsize
  | refuseJob hrun _ | wakeForJob hrun _ | growLess hrun _ _ => exact absurd hrun hstage

end Outline

namespace Pool

variable {p q : Pool J} {m : Move J} {r : Pool J × List (Occurrence J)}
  {past happened : List (Occurrence J)}

/-! ## Moves of a pool -/

@[simp] lemma endedJobs_append :
    endedJobs (past ++ happened) = endedJobs past ++ endedJobs happened :=
  List.filterMap_append

/-- **Every section is a move of the outline.** -/
theorem outline_move (hp : p.Numbered) (h : p.move m = some r) :
    p.outline.Move m r.1.outline r.2 := by
  cases m with
  | served a => exact .served (outline_step hp h)
  | submitStarved job reason =>
      simp only [move] at h
      split_ifs at h with hunasked hnone <;> obtain rfl := Option.some.inj h
      all_goals
        obtain ⟨hrun, -⟩ := not_or.mp hunasked
      · exact .refuseJob (not_not.mp hrun) (by simpa using hnone)
      · dsimp only
        rw [outline_wakeOne]
        exact .wakeForJob (not_not.mp hrun) (by simpa using Nat.pos_of_ne_zero hnone)
  | setCoreStarved core started reason =>
      simp only [move] at h
      split_ifs at h with hunasked
      obtain rfl := Option.some.inj h
      obtain ⟨hrun, hrest⟩ := not_or.mp hunasked
      obtain ⟨hmax, hroom⟩ := not_or.mp hrest
      have hsize : started < core - p.size :=
        Nat.lt_of_lt_of_le (Nat.lt_of_not_le hroom) (Nat.min_le_right _ _)
      have hgrown : { p with core }.size = p.size := rfl
      dsimp only
      rw [outline_spawnUpTo, hgrown, Nat.min_eq_left hsize.le]
      refine .growLess (not_not.mp hrun) (Nat.le_of_not_lt hmax) ?_
      rw [size_outline]
      omega

lemma Numbered.move (hp : p.Numbered) (h : p.move m = some r) : r.1.Numbered := by
  cases m with
  | served a => exact hp.step h
  | submitStarved job reason =>
      simp only [Pool.move] at h
      split_ifs at h <;> obtain rfl := Option.some.inj h
      · exact hp
      · exact Numbered.wakeOne (hp.congr rfl rfl)
  | setCoreStarved core started reason =>
      simp only [Pool.move] at h
      split_ifs at h
      obtain rfl := Option.some.inj h
      exact Numbered.spawnUpTo started (hp.congr rfl rfl)

/-! ## Where jobs are -/

/-- Where the jobs are that were accepted so far. -/
structure Balanced (p : Pool J) (past : List (Occurrence J)) : Prop where
  accounted : p.Accounted past
  supplied : p.outline.Supplied
  /-- The jobs that were started have ended or are running. -/
  started_eq : (↑(startedJobs past) : Multiset J) = ↑(endedJobs past) + p.running

lemma balanced_ofSize (size keepAlive : Nat) : (ofSize size keepAlive : Pool J).Balanced [] where
  accounted := accounted_ofSize size keepAlive
  supplied := supplied_ofSize size keepAlive
  started_eq := rfl

/-- **Every section keeps the balance**, whatever threads the system refuses in it. -/
theorem Balanced.move (hp : p.Balanced past) (h : p.move m = some r) :
    r.1.Balanced (past ++ r.2) := by
  have hmove := outline_move hp.accounted.numbered h
  constructor
  case accounted =>
    exact hp.accounted.extend (hp.accounted.numbered.move h) hmove.queue_append_accepted
      hmove.of_stopped fun jobs hjobs => hmove.stopped_of_dropped hjobs
  case supplied => exact hmove.supplied hp.supplied
  case started_eq =>
    have hrunning : p.running + ↑(startedJobs r.2) = ↑(endedJobs r.2) + r.1.running :=
      hmove.running_add_started
    calc (↑(startedJobs (past ++ r.2)) : Multiset J)
        = ↑(endedJobs past) + (p.running + ↑(startedJobs r.2)) := by
          rw [startedJobs_append, ← Multiset.coe_add, hp.started_eq, Multiset.add_assoc]
      _ = ↑(endedJobs (past ++ r.2)) + r.1.running := by
          rw [hrunning, endedJobs_append, ← Multiset.coe_add, Multiset.add_assoc]

/-! ## Pools that are terminated -/

/-- A pool is terminated when it is shut down and has no workers. -/
lemma isTerminated_iff (p : Pool J) :
    p.isTerminated = true ↔ p.stage ≠ .running ∧ p.size = 0 := by
  rw [isTerminated, Bool.and_eq_true, isShutdown_eq_true_iff, List.isEmpty_iff, size,
    List.length_eq_zero_iff]

/-- Nothing is left behind in a pool that is terminated. -/
lemma Balanced.of_isTerminated (hp : p.Balanced past) (h : p.isTerminated = true) :
    p.queue = [] ∧ p.active = 0 ∧ acceptedJobs past = startedJobs past ++ droppedJobs past
      ∧ (startedJobs past).Perm (endedJobs past) := by
  obtain ⟨-, hsize⟩ := (isTerminated_iff p).mp h
  have hqueue : p.queue = [] := by
    by_contra hne
    have hsome := hp.supplied.size_pos hne
    rw [size_outline, hsize] at hsome
    exact Nat.lt_irrefl 0 hsome
  have hnone : p.active = 0 := by
    have hcount := active_add_parked_add_looking p
    omega
  refine ⟨hqueue, hnone, ?_, ?_⟩
  · have haccepted := hp.accounted.accepted_eq
    rwa [hqueue, List.append_nil] at haccepted
  · have hrunning : p.running = 0 := Multiset.card_eq_zero.mp (p.card_running.trans hnone)
    have hstarted := hp.started_eq
    rw [hrunning, Multiset.add_zero] at hstarted
    exact Multiset.coe_eq_coe.mp hstarted

/-- Workers are numbered as they are started, also where the system refuses one. -/
lemma nextId_of_move (h : p.move m = some r) :
    r.1.nextId = p.nextId ∨ r.1.nextId + p.size = p.nextId + r.1.size := by
  cases m with
  | served a => exact nextId_of_step h
  | submitStarved job reason =>
      simp only [move] at h
      split_ifs at h <;> obtain rfl := Option.some.inj h <;> exact .inl rfl
  | setCoreStarved core started reason =>
      simp only [move] at h
      split_ifs at h
      obtain rfl := Option.some.inj h
      exact .inr (nextId_spawnUpTo started { p with core })

/-- **A terminated pool stays so**: no section starts a worker or a job in it. -/
theorem isTerminated_of_move (hp : p.Numbered) (h : p.move m = some r)
    (hterminated : p.isTerminated = true) :
    r.1.isTerminated = true ∧ r.1.nextId = p.nextId ∧ startedJobs r.2 = [] := by
  obtain ⟨hstage, hsize⟩ := (isTerminated_iff p).mp hterminated
  have hmove := outline_move hp h
  obtain ⟨hnone, hstarted⟩ := hmove.of_size_eq_zero hstage (by simpa using hsize)
  have hstage' : r.1.stage ≠ .running := hmove.stage_ne_running_iff.mpr (.inl hstage)
  have hsize' : r.1.size = 0 := by simpa using hnone
  refine ⟨(isTerminated_iff r.1).mpr ⟨hstage', hsize'⟩, ?_, hstarted⟩
  rcases nextId_of_move h with hsame | hcount
  · exact hsame
  · rwa [hsize, hsize'] at hcount

end Pool

end ReviewStream
