import ReviewStream.Proofs.Pool.Sections

/-!
# Every accepted job is accounted for

The queue is a list to whose end jobs are put and from whose front they are taken, by a worker that
starts one or by the operation that gives all of them back.  So the jobs that were accepted are
those that have been started, those that were given back and those that still wait, in this order.

* `acceptedJobs`, `startedJobs`, `droppedJobs`: the jobs in what happened.
* `Outline.Step.queue_append_accepted`: what one section does to the queue.
* **`accepted_eq_started_append_dropped_append_queue`**: the account after any run, and that a crash
  takes nothing from it.
-/

namespace ReviewStream

variable {J : Type}

namespace Pool

/-! ## Jobs in what happened -/

/-- The jobs that were accepted, in order. -/
def acceptedJobs (happened : List (Occurrence J)) : List J :=
  happened.filterMap fun
    | .accepted job => some job
    | _ => none

/-- The jobs that were started, in order. -/
def startedJobs (happened : List (Occurrence J)) : List J :=
  happened.filterMap fun
    | .started _ job => some job
    | _ => none

/-- The jobs that were given back, in order. -/
def droppedJobs (happened : List (Occurrence J)) : List J :=
  happened.flatMap fun
    | .dropped jobs => jobs
    | _ => []

variable {past happened : List (Occurrence J)}

@[simp] lemma acceptedJobs_append :
    acceptedJobs (past ++ happened) = acceptedJobs past ++ acceptedJobs happened :=
  List.filterMap_append

@[simp] lemma startedJobs_append :
    startedJobs (past ++ happened) = startedJobs past ++ startedJobs happened :=
  List.filterMap_append

@[simp] lemma droppedJobs_append :
    droppedJobs (past ++ happened) = droppedJobs past ++ droppedJobs happened :=
  List.flatMap_append

/-- Jobs are given back only by the operation that does so. -/
lemma droppedJobs_eq_nil (h : ∀ jobs, Occurrence.dropped jobs ∉ happened) :
    droppedJobs happened = [] := by
  refine List.flatMap_eq_nil_iff.mpr fun x hx => ?_
  cases x with
  | dropped jobs => exact absurd hx (h jobs)
  | _ => rfl

end Pool

/-! ## What one section does to the queue -/

namespace Outline

open Pool

variable {id : Nat} {a : Action J} {o rest next : Outline J} {happened : List (Occurrence J)}

/-- A worker that looks for a job takes the oldest one or none. -/
lemma Advance.queue_eq (h : Advance id rest next happened) :
    acceptedJobs happened = [] ∧ droppedJobs happened = []
      ∧ rest.queue = startedJobs happened ++ next.queue := by
  cases h with
  | leave _ => exact ⟨rfl, rfl, rfl⟩
  | start _ _ hqueue => exact ⟨rfl, rfl, hqueue⟩
  | park _ _ _ => exact ⟨rfl, rfl, rfl⟩

/-- **What one section does to the queue**: accepted jobs go to its end, started and dropped ones
leave it at the front. -/
theorem Step.queue_append_accepted (h : o.Step a next happened) :
    o.queue ++ acceptedJobs happened
      = startedJobs happened ++ droppedJobs happened ++ next.queue := by
  cases h with
  | submitHire _ _ => rfl
  | submitWake _ _ _ => rfl
  | expire h =>
      subst h
      exact List.append_nil _
  | retire h _ _ =>
      subst h
      exact List.append_nil _
  | look h hadvance =>
      obtain ⟨haccepted, hdropped, hqueue⟩ := hadvance.queue_eq
      rw [h, queue_plus, haccepted, hdropped, hqueue]
      simp
  | @finish i job ending rest _ later h hadvance =>
      obtain ⟨haccepted, hdropped, hqueue⟩ := hadvance.queue_eq
      have haccepted' : acceptedJobs (.finished i job ending :: later) = acceptedJobs later := rfl
      have hstarted' : startedJobs (.finished i job ending :: later) = startedJobs later := rfl
      have hdropped' : droppedJobs (.finished i job ending :: later) = droppedJobs later := rfl
      rw [h, queue_plus, haccepted', hstarted', hdropped', haccepted, hdropped, hqueue]
      simp
  | _ => simp [acceptedJobs, startedJobs, droppedJobs]

lemma Advance.of_stopped (h : Advance id rest next happened) (hstop : rest.stage = .stopped) :
    startedJobs happened = [] ∧ next.stage = .stopped := by
  cases h with
  | leave _ => exact ⟨rfl, hstop⟩
  | start hstage _ _ => exact absurd hstop hstage
  | park hstage _ _ => exact absurd hstop (by simp [hstage])

/-- **A stopped pool starts nothing and stays stopped.** -/
theorem Step.of_stopped (h : o.Step a next happened) (hstop : o.stage = .stopped) :
    startedJobs happened = [] ∧ next.stage = .stopped := by
  cases h with
  | submitHire hrun _ => exact absurd hstop (by simp [hrun])
  | submitWake hrun _ _ => exact absurd hstop (by simp [hrun])
  | growCore _ _ hrun => exact absurd hstop (by simp [hrun])
  | shutdown => exact ⟨rfl, by simp [hstop]⟩
  | shutdownNow => exact ⟨rfl, rfl⟩
  | expire h =>
      subst h
      exact ⟨rfl, hstop⟩
  | retire h _ _ =>
      subst h
      exact ⟨rfl, hstop⟩
  | look h hadvance =>
      rw [h, stage_plus] at hstop
      exact hadvance.of_stopped hstop
  | finish h hadvance =>
      rw [h, stage_plus] at hstop
      exact hadvance.of_stopped hstop
  | _ => exact ⟨rfl, hstop⟩

lemma Advance.dropped_notMem {jobs : List J} (h : Advance id rest next happened) :
    Occurrence.dropped jobs ∉ happened := by
  cases h <;> simp

/-- Jobs are given back only by stopping the pool. -/
lemma Step.stopped_of_dropped {jobs : List J} (h : o.Step a next happened)
    (hdropped : .dropped jobs ∈ happened) : next.stage = .stopped := by
  cases h with
  | shutdownNow => rfl
  | look _ hadvance => exact absurd hdropped hadvance.dropped_notMem
  | finish _ hadvance => exact absurd hdropped (by simpa using hadvance.dropped_notMem)
  | _ => simp at hdropped

end Outline

/-! ## The account -/

namespace Pool

variable {p q : Pool J} {past happened : List (Occurrence J)}

/-- The account of the jobs that were accepted so far. -/
structure Accounted (p : Pool J) (past : List (Occurrence J)) : Prop where
  numbered : p.Numbered
  accepted_eq : acceptedJobs past = startedJobs past ++ droppedJobs past ++ p.queue
  stopped_of_dropped : ∀ jobs, .dropped jobs ∈ past → p.stage = .stopped

lemma accounted_ofSize (size keepAlive : Nat) : (ofSize size keepAlive : Pool J).Accounted [] where
  numbered := numbered_ofSize size keepAlive
  accepted_eq := rfl
  stopped_of_dropped := by simp

/-- Nothing is started once jobs have been given back, so what is started and what is dropped do not
overtake each other. -/
lemma Accounted.dropped_append_started (hp : p.Accounted past)
    (hstopped : p.stage = .stopped → startedJobs happened = []) :
    droppedJobs past ++ startedJobs happened = startedJobs happened ++ droppedJobs past := by
  by_cases hdropped : ∃ jobs, Occurrence.dropped jobs ∈ past
  · obtain ⟨jobs, hjobs⟩ := hdropped
    rw [hstopped (hp.stopped_of_dropped jobs hjobs), List.append_nil, List.nil_append]
  · rw [droppedJobs_eq_nil (not_exists.mp hdropped), List.append_nil, List.nil_append]

/-- What a section has to do to keep the account. -/
lemma Accounted.extend (hp : p.Accounted past) (hq : q.Numbered)
    (hqueue : p.queue ++ acceptedJobs happened
      = startedJobs happened ++ droppedJobs happened ++ q.queue)
    (hstopped : p.stage = .stopped → startedJobs happened = [] ∧ q.stage = .stopped)
    (hdropped : ∀ jobs, .dropped jobs ∈ happened → q.stage = .stopped) :
    q.Accounted (past ++ happened) where
  numbered := hq
  accepted_eq := by
    calc acceptedJobs (past ++ happened)
        = startedJobs past ++ droppedJobs past ++ (p.queue ++ acceptedJobs happened) := by
          rw [acceptedJobs_append, hp.accepted_eq, List.append_assoc]
      _ = startedJobs past ++ (droppedJobs past ++ startedJobs happened)
            ++ (droppedJobs happened ++ q.queue) := by
          rw [hqueue]
          simp only [List.append_assoc]
      _ = startedJobs (past ++ happened) ++ droppedJobs (past ++ happened) ++ q.queue := by
          -- What was dropped and what is started change places: one of them is empty.
          rw [hp.dropped_append_started fun hstop => (hstopped hstop).1, startedJobs_append,
            droppedJobs_append]
          simp only [List.append_assoc]
  stopped_of_dropped := by
    intro jobs hjobs
    rcases List.mem_append.mp hjobs with hjobs | hjobs
    · exact (hstopped (hp.stopped_of_dropped jobs hjobs)).2
    · exact hdropped jobs hjobs

/-- Every section keeps the account. -/
lemma Accounted.step {a : Action J} {r : Pool J × List (Occurrence J)} (hp : p.Accounted past)
    (h : p.step a = some r) : r.1.Accounted (past ++ r.2) := by
  have hstep := outline_step hp.numbered h
  exact hp.extend (hp.numbered.step h) hstep.queue_append_accepted hstep.of_stopped
    fun jobs hjobs => hstep.stopped_of_dropped hjobs

lemma Accounted.run {actions : List (Action J)} {r : Pool J × List (Occurrence J)}
    (hp : p.Accounted past) (h : p.run actions = some r) : r.1.Accounted (past ++ r.2) :=
  isRun.induction_after (I := fun p _ past => p.Accounted past)
    (fun _ _ _ _ _ _ _ hp hstep => hp.step hstep) [] past hp h

/-- A stopped pool starts nothing any more. -/
lemma startedJobs_eq_nil_of_stopped {actions : List (Action J)}
    {r : Pool J × List (Occurrence J)} (hp : p.Numbered) (hstop : p.stage = .stopped)
    (h : p.run actions = some r) : startedJobs r.2 = [] := by
  have hkept := isRun.induction
    (I := fun p _ past => p.Numbered ∧ p.stage = .stopped ∧ startedJobs past = [])
    (fun p _ past a r now _ hI hstep => by
      obtain ⟨hp, hstop, hnone⟩ := hI
      obtain ⟨hstarted, hstop⟩ := (outline_step hp hstep).of_stopped hstop
      exact ⟨hp.step hstep, hstop, by rw [startedJobs_append, hnone, hstarted]; rfl⟩)
    ⟨hp, hstop, rfl⟩ h
  exact hkept.2.2

/-! ## Jobs that crash -/

/-- However its job ends, the worker goes on: it stays with the pool as long as there is a place
for it, and takes the next job if there is one. -/
def GoesOn (p : Pool J) (id : Nat) (job : J) : Prop :=
  ∃ q happened,
    (∀ ending, p.step (.finish id ending) = some (q, .finished id job ending :: happened))
      ∧ (p.stage = .running → p.size ≤ p.max → q.size = p.size)
      ∧ ∀ next rest, p.stage ≠ .stopped → p.size ≤ p.max → p.queue = next :: rest →
          happened = [.started id next] ∧ q.worker? id = some ⟨id, .running next⟩
            ∧ q.queue = rest ∧ q.size = p.size

@[simp] lemma size_setPhase (p : Pool J) (id : Nat) (phase : Phase J) :
    (p.setPhase id phase).size = p.size :=
  List.length_map ..

/-- A worker whose job is over takes the oldest job of the queue. -/
lemma advance_of_queue_cons {id : Nat} {job : J} {rest : List J} (hstage : p.stage ≠ .stopped)
    (hsize : p.size ≤ p.max) (hqueue : p.queue = job :: rest) :
    p.advance id
      = ({ p with queue := rest }.setPhase id (.running job), [.started id job]) := by
  refine advance_of_start ?_
  rw [finding, if_neg hstage, if_neg (Nat.not_lt_of_le hsize), hqueue]

/-- A worker for which there is a place but no job parks. -/
lemma advance_of_queue_nil {id : Nat} (hstage : p.stage = .running) (hsize : p.size ≤ p.max)
    (hqueue : p.queue = []) : p.advance id = (p.park id, []) := by
  refine advance_of_park ?_
  rw [finding, if_neg (by simp [hstage]), if_neg (Nat.not_lt_of_le hsize), hqueue]
  simp [hstage]

lemma size_park {id : Nat} {w : Worker J} (hp : p.Numbered) (h : p.worker? id = some w) :
    (p.park id).size = p.size := by
  have hpark := congrArg Outline.size (outline_park p id)
  simp only [size_outline, Outline.size_plus] at hpark
  rw [hpark, size_eq_dismiss_succ hp h]

/-- **A job that crashes costs neither its worker nor the next job anything.** -/
theorem goesOn {id : Nat} {job : J} (hp : p.Numbered)
    (h : p.worker? id = some ⟨id, .running job⟩) : p.GoesOn id job := by
  set free := p.setPhase id .waking with hfree
  have hfound : free.worker? id = some ⟨id, .waking⟩ := worker?_setPhase h .waking
  have hfreeSize : free.size = p.size := size_setPhase p id .waking
  refine ⟨(free.advance id).1, (free.advance id).2, fun ending => ?_, fun hrun hsize => ?_,
    fun next rest hstage hsize hqueue => ?_⟩
  · simp only [step, h, hfree]
  · cases hqueue : p.queue with
    | nil =>
        rw [advance_of_queue_nil (p := free) hrun (by rwa [hfreeSize]) hqueue, ← hfreeSize]
        exact size_park (hp.setPhase id .waking) hfound
    | cons next rest =>
        rw [advance_of_queue_cons (p := free) (by simp [hfree, setPhase, hrun])
          (by rwa [hfreeSize]) hqueue, size_setPhase]
        exact hfreeSize
  · rw [advance_of_queue_cons (p := free) hstage (by rwa [hfreeSize]) hqueue]
    exact ⟨rfl, worker?_setPhase (p := { free with queue := rest }) hfound (.running next), rfl,
      (size_setPhase _ id _).trans hfreeSize⟩

/-! ## Any run -/

/-- **Every accepted job is accounted for.**  After any run of a pool, in which a resize counts as
the sections that it is made of, the accepted jobs are the started ones, then those that were given
back, then the queue, in this order; so jobs that differ are started once at most, and none of those
that were given back.  Once jobs have been given back nothing is started any more.  A job that
crashes leaves its worker with the pool and free for the next one. -/
theorem accepted_eq_started_append_dropped_append_queue {size keepAlive : Nat}
    {actions : List (Action J)} {p : Pool J} {happened : List (Occurrence J)}
    (h : (ofSize size keepAlive).run actions = some (p, happened)) :
    acceptedJobs happened = startedJobs happened ++ droppedJobs happened ++ p.queue
      ∧ ((acceptedJobs happened).Nodup →
          (startedJobs happened).Nodup ∧ (startedJobs happened).Disjoint (droppedJobs happened))
      ∧ (∀ jobs, .dropped jobs ∈ happened → ∀ later q more,
          p.run later = some (q, more) → startedJobs more = [])
      ∧ ∀ id job, p.worker? id = some ⟨id, .running job⟩ → p.GoesOn id job := by
  have hp : p.Accounted happened := (accounted_ofSize size keepAlive).run h
  refine ⟨hp.accepted_eq, fun hnodup => ?_, fun jobs hjobs later q more hrun => ?_,
    fun id job hw => goesOn hp.numbered hw⟩
  · rw [hp.accepted_eq, List.append_assoc, List.nodup_append] at hnodup
    obtain ⟨hstarted, -, hdistinct⟩ := hnodup
    refine ⟨hstarted, fun job hjob hdropped => ?_⟩
    exact hdistinct job hjob job (List.mem_append_left _ hdropped) rfl
  · exact startedJobs_eq_nil_of_stopped hp.numbered (hp.stopped_of_dropped jobs hjobs) hrun

/-- A worker whose first job crashes starts the next one, and what is given back is not started. -/
theorem accepted_eq_after_crash :
    let actions : List (Action Nat) :=
      [.look 1, .submit 10, .look 1, .submit 20, .submit 30, .finish 1 .crashed, .submit 40,
        .shutdownNow, .submit 50, .finish 1 .returned]
    let happened : List (Occurrence Nat) :=
      [.accepted 10, .started 1 10, .accepted 20, .accepted 30, .finished 1 10 .crashed,
        .started 1 20, .accepted 40, .dropped [30, 40], .refused .rejected,
        .finished 1 20 .returned]
    let p : Pool Nat :=
      { queue := [], core := 1, max := 1, keepAlive := 60000, workers := [], largest := 1,
        nextId := 2, stage := .stopped }
    (ofSize 1 60000).run actions = some (p, happened)
      ∧ acceptedJobs happened = startedJobs happened ++ droppedJobs happened ++ p.queue
      ∧ startedJobs happened = [10, 20] ∧ droppedJobs happened = [30, 40] := by
  intro actions happened p
  have hrun : (ofSize 1 60000).run actions = some (p, happened) := rfl
  exact ⟨hrun, (accepted_eq_started_append_dropped_append_queue hrun).1, rfl, rfl⟩

end Pool

end ReviewStream
