import ReviewStream.Proofs.Dispatch.Draining

/-!
# What a shutdown of a dispatcher leaves behind

A shutdown that waits returns when the pool is terminated or after it has stopped the pool itself,
and in both cases nothing is started any more.  A shutdown that does not wait leaves the queue to
the workers.

* `Dispatcher.Attended.caused`: the calls that items cause which are started in a run.
* `Dispatcher.Attended.Closed`: what a shutdown that waits leaves behind.
* `Dispatcher.Attended.Drains`: what a shutdown that does not wait leaves to be done.
* **`Dispatcher.Attended.closed_of_left`**: what has become of every item when a shutdown returns.
-/

namespace ReviewStream.Dispatcher.Attended

open Pool (acceptedJobs startedJobs droppedJobs endedJobs)

variable {population : Registry.Population} {s t : Attended} {act : Act} {acts : List Act}
  {past happened more : List (Pool.Occurrence WorkItem)} {made later : List Call}

/-! ## Calls that are caused -/

/-- The calls that items cause which are started in a run, each of them as things are when it is
started. -/
def caused (population : Registry.Population) (s : Attended) : List Act → List Call
  | [] => []
  | act :: rest =>
    match s.step population act with
    | some (next, happened, _) =>
      (startedJobs happened).flatMap s.dispatcher.callsOf ++ next.caused population rest
    | none => []

/-- What has been called and what is owed is what the items have caused. -/
lemma made_perm_caused (hs : s.dispatcher.Ledger)
    (h : s.run population acts = some (t, happened, made)) :
    (made ++ t.dispatcher.owed).Perm (s.dispatcher.owed ++ s.caused population acts) := by
  induction acts generalizing s happened made with
  | nil =>
      cases h
      simp [caused]
  | cons act acts ih =>
      obtain ⟨u, ⟨now, first⟩, ⟨more, after⟩, hfirst, hrest, hrecord⟩ := isRun.exists_of_cons h
      cases hrecord
      obtain ⟨hledger, -, hnow⟩ := (step_spec hfirst).dispatcher_spec hs
      have hlater := ih hledger hrest
      rw [caused, hfirst]
      dsimp only
      calc ((first ++ after) ++ t.dispatcher.owed)
          = first ++ (after ++ t.dispatcher.owed) := List.append_assoc ..
        List.Perm _ (first ++ (u.dispatcher.owed ++ u.caused population acts)) :=
          hlater.append_left first
        _ = (first ++ u.dispatcher.owed) ++ u.caused population acts :=
          (List.append_assoc ..).symm
        List.Perm _ ((s.dispatcher.owed ++ (startedJobs now).flatMap s.dispatcher.callsOf)
            ++ u.caused population acts) := hnow.append_right _
        _ = _ := List.append_assoc ..

/-! ## After a shutdown that waits -/

/-- What a shutdown that waits leaves behind: an empty queue, and items that are still running.  All
that may still happen is that these end. -/
structure Closed (population : Registry.Population) (s : Attended)
    (past : List (Pool.Occurrence WorkItem)) : Prop where
  queue_eq_nil : s.dispatcher.pool.queue = []
  /-- Every item that was accepted has ended, is running or was given up, and this once. -/
  accepted_eq : (↑(acceptedJobs past) : Multiset WorkItem)
    = ↑(endedJobs past) + s.dispatcher.pool.running + ↑(droppedJobs past)
  /-- Nothing is accepted, started or given up later on, and only calls are made that are owed. -/
  stays : ∀ later t more made, s.run population later = some (t, more, made) →
    t.dispatcher.pool.queue = [] ∧ acceptedJobs more = [] ∧ startedJobs more = []
      ∧ droppedJobs more = []
      ∧ s.dispatcher.pool.running = ↑(endedJobs more) + t.dispatcher.pool.running
      ∧ (made ++ t.dispatcher.owed).Perm s.dispatcher.owed
  /-- An item that is posted is dropped. -/
  post_eq : ∀ item, s.dispatcher.post item = s.dispatcher
    ∧ s.step population (.work (.served (.submit item))) = some (s, [.refused .rejected], [])

/-- Where nothing is started any more, it stays so. -/
lemma Sound.stays (hs : s.Sound acts past) (hhalted : s.dispatcher.pool.Halted)
    {steps : List Act} (h : s.run population steps = some (t, more, made)) :
    t.dispatcher.pool.queue = [] ∧ acceptedJobs more = [] ∧ startedJobs more = []
      ∧ droppedJobs more = []
      ∧ s.dispatcher.pool.running = ↑(endedJobs more) + t.dispatcher.pool.running
      ∧ (made ++ t.dispatcher.owed).Perm s.dispatcher.owed := by
  have hkept := isRun.induction
    (I := fun u taken record => u.Sound (acts ++ taken) (past ++ record.1)
      ∧ u.dispatcher.pool.Halted ∧ acceptedJobs record.1 = [] ∧ startedJobs record.1 = []
      ∧ droppedJobs record.1 = []
      ∧ s.dispatcher.pool.running = ↑(endedJobs record.1) + u.dispatcher.pool.running
      ∧ (record.2 ++ u.dispatcher.owed).Perm s.dispatcher.owed)
    (fun u taken ⟨more, made⟩ act v ⟨now, first⟩ _ hu hstep => by
      obtain ⟨hsound, hhalted, haccepted, hstarted, hdropped, hrunning, howed⟩ := hu
      have hnext := hsound.step hstep
      rw [List.append_assoc, List.append_assoc] at hnext
      obtain ⟨-, hpasses, hmade⟩ := (step_spec hstep).dispatcher_spec hsound.ledger
      have hnow : v.dispatcher.pool.Halted ∧ acceptedJobs now = [] ∧ startedJobs now = []
          ∧ droppedJobs now = []
          ∧ u.dispatcher.pool.running = ↑(endedJobs now) + v.dispatcher.pool.running := by
        rcases hpasses with ⟨hpool, rfl⟩ | ⟨m, hmove⟩
        · rw [hpool]
          exact ⟨hhalted, rfl, rfl, rfl, (Multiset.zero_add _).symm⟩
        · exact hhalted.move hsound.balanced hmove
      obtain ⟨hhalted', haccepted', hstarted', hdropped', hrunning'⟩ := hnow
      refine ⟨hnext, hhalted', ?_, ?_, ?_, ?_, ?_⟩
      · rw [Pool.acceptedJobs_append, haccepted, haccepted']
        rfl
      · rw [Pool.startedJobs_append, hstarted, hstarted']
        rfl
      · rw [Pool.droppedJobs_append, hdropped, hdropped']
        rfl
      · rw [hrunning, hrunning', Pool.endedJobs_append, ← Multiset.coe_add, Multiset.add_assoc]
      · rw [hstarted', List.flatMap_nil, List.append_nil] at hmade
        rw [List.append_assoc]
        exact (hmade.append_left made).trans howed)
    ⟨by simpa using hs, hhalted, rfl, rfl, rfl, (Multiset.zero_add _).symm, .refl _⟩ h
  obtain ⟨hsound, hhalted', hrest⟩ := hkept
  exact ⟨hhalted'.queue_eq_nil hsound.balanced, hrest⟩

/-- An item that is posted after a shutdown is dropped. -/
lemma post_of_isShutdown (h : s.dispatcher.pool.isShutdown = true) (item : WorkItem) :
    s.dispatcher.post item = s.dispatcher
      ∧ s.step population (.work (.served (.submit item)))
        = some (s, [.refused .rejected], []) := by
  have hsubmit : s.dispatcher.pool.submit item = .error .rejected := if_pos h
  constructor
  · rw [post, hsubmit]
  · simp [Attended.step, isOpen, Dispatcher.move, allowsMove, allows, Pool.move, Pool.step, hsubmit,
      Pool.settled, takeUp]

/-- Where items that were accepted are. -/
lemma Sound.accepted_eq (hs : s.Sound acts past) :
    (↑(acceptedJobs past) : Multiset WorkItem)
      = ↑(endedJobs past) + s.dispatcher.pool.running + ↑(droppedJobs past)
        + ↑s.dispatcher.pool.queue := by
  rw [hs.balanced.accounted.accepted_eq, ← Multiset.coe_add, ← Multiset.coe_add,
    hs.balanced.started_eq]

lemma Sound.closed (hs : s.Sound acts past) (hhalted : s.dispatcher.pool.Halted) :
    s.Closed population past := by
  have hqueue := hhalted.queue_eq_nil hs.balanced
  constructor
  case queue_eq_nil => exact hqueue
  case accepted_eq =>
    have haccepted := hs.accepted_eq
    rwa [hqueue, Multiset.coe_nil, Multiset.add_zero] at haccepted
  case stays => exact fun later t more made h => hs.stays hhalted h
  case post_eq =>
    exact post_of_isShutdown ((Pool.isShutdown_eq_true_iff _).mpr hhalted.stage_ne)

/-! ## After a shutdown that does not wait -/

/-- What a shutdown that does not wait leaves to be done: nothing has been given up, and if workers
do not rest for good every item comes to its end. -/
structure Drains (population : Registry.Population) (s : Attended)
    (past : List (Pool.Occurrence WorkItem)) : Prop where
  dropped_eq_nil : droppedJobs past = []
  accepted_eq : (↑(acceptedJobs past) : Multiset WorkItem)
    = ↑(endedJobs past) + s.dispatcher.pool.running + ↑s.dispatcher.pool.queue
  /-- Nobody is stuck before the end. -/
  busy : s.dispatcher.pool.isTerminated = false →
    ∃ act, act.isTurn = true ∧ (s.step population act).isSome = true
  /-- Workers need not rest for good. -/
  endless : ∃ states steps, Endless population s states steps ∧ ∀ n, steps n ≠ .shutdown true
  drained : ∀ states steps, Endless population s states steps → (∀ n, steps n ≠ .shutdown true) →
    ∃ n more made, s.run population ((List.range n).map steps) = some (states n, more, made)
      ∧ (states n).dispatcher.pool.isTerminated = true
      ∧ (acceptedJobs (past ++ more)).Perm (endedJobs (past ++ more))
      ∧ (states n).dispatcher.owed = []

/-- Nothing is given up unless somebody asked to wait. -/
lemma Sound.dropped_eq_nil (hs : s.Sound acts past) (hnone : .shutdown true ∉ acts) :
    droppedJobs past = [] := by
  refine Pool.droppedJobs_eq_nil fun items hitems => ?_
  exact hnone (hs.asked_of_stopped (hs.balanced.accounted.stopped_of_dropped items hitems))

/-- In the end no calls are owed. -/
lemma Sound.owed_eq_nil (hs : s.Sound acts past)
    (hterminated : s.dispatcher.pool.isTerminated = true) : s.dispatcher.owed = [] := by
  obtain ⟨-, hsize⟩ := (Pool.isTerminated_iff _).mp hterminated
  have hlength := hs.ledger.length_pending_le
  have hpending : s.dispatcher.pending = [] :=
    List.eq_nil_of_length_eq_zero (Nat.le_zero.mp (hsize ▸ hlength))
  rw [owed, hpending, List.flatMap_nil]

lemma Sound.drains (hs : s.Sound acts past) (hclosed : s.dispatcher.pool.stage ≠ .running)
    (hnone : .shutdown true ∉ acts) : s.Drains population past := by
  constructor
  case dropped_eq_nil => exact hs.dropped_eq_nil hnone
  case accepted_eq =>
    have haccepted := hs.accepted_eq
    rwa [hs.dropped_eq_nil hnone, Multiset.coe_nil, Multiset.add_zero] at haccepted
  case busy => exact hs.exists_turn hclosed
  case endless => exact hs.exists_endless hclosed
  case drained =>
    intro states steps hendless hkept
    obtain ⟨n, hterminated⟩ := hendless.exists_isTerminated hs hclosed
    obtain ⟨more, made, hrun⟩ := hendless.exists_run n
    have hlast : (states n).Sound (acts ++ (List.range n).map steps) (past ++ more) := hs.run hrun
    have hnone' : .shutdown true ∉ acts ++ (List.range n).map steps := by
      simp only [List.mem_append, List.mem_map, not_or, not_exists, not_and]
      exact ⟨hnone, fun i _ => hkept i⟩
    obtain ⟨-, -, haccepted, hstarted⟩ := hlast.balanced.of_isTerminated hterminated
    refine ⟨n, more, made, hrun, hterminated, ?_, hlast.owed_eq_nil hterminated⟩
    rw [haccepted, hlast.dropped_eq_nil hnone', List.append_nil]
    exact hstarted

/-! ## Any run -/

/-- Items are given up by a call whose grace period has ended, and by nobody else. -/
lemma Sound.expired_of_dropped (hs : s.Sound acts past) {items : List WorkItem}
    (h : Step population s act t more later) (hdropped : .dropped items ∈ more) :
    ∃ call : Nat, act = .goOn call ∧ s.calls[call]? = some .discarding ∧ .expire call ∈ acts := by
  cases h with
  | work hopen hmove _ =>
      obtain ⟨hpool, -⟩ := move_spec hs.ledger hmove
      have hshut := (Pool.outline_move hs.ledger.numbered hpool).eq_of_dropped hdropped
      subst hshut
      cases hopen
  | @goOn call c _ _ _ hc hturn =>
      have hfits := hs.fits call c hc
      cases hturn with
      | discard => exact ⟨call, rfl, hc, hfits.2.2⟩
      | close | drain _ | linger _ => exact absurd hdropped List.not_mem_nil
  | _ => exact absurd hdropped List.not_mem_nil

/-- **Shutting a dispatcher down.**  Whatever has been posted to a dispatcher, whoever resizes it,
changes its listeners or shuts it down at the same time, and whenever grace periods end, after any
run:

* A shutdown that has waited and returned leaves an empty queue.  Every item that was accepted has
  ended, is running or was given up, and nothing is started any more; what is posted is dropped.
* The calls that have been made and those that are owed are the calls of the items that were
  started.
* Items are given up by a shutdown that waits, and only after its first grace period has ended.
* A shutdown that has not waited and returned leaves every item to the workers: unless another one
  waits none is given up, and if workers do not rest for good all of them come to their end. -/
theorem closed_of_left {d : Dispatcher} (hd : IsNew d)
    (h : (⟨d, []⟩ : Attended).run population acts = some (s, happened, made)) :
    (.left true ∈ s.calls → s.Closed population happened)
      ∧ (made ++ s.dispatcher.owed).Perm (caused population ⟨d, []⟩ acts)
      ∧ (∀ act t more later items, s.step population act = some (t, more, later) →
          .dropped items ∈ more →
            ∃ call : Nat, act = .goOn call ∧ s.calls[call]? = some .discarding
              ∧ .expire call ∈ acts)
      ∧ (.left false ∈ s.calls → .shutdown true ∉ acts → s.Drains population happened) := by
  have hs : s.Sound acts happened := sound_of_run hd h
  refine ⟨fun hleft => ?_, ?_, fun act t more later items hstep hdropped => ?_,
    fun hleft hnone => ?_⟩
  · obtain ⟨call, hcall⟩ := List.mem_iff_getElem?.mp hleft
    have hfits := hs.fits call _ hcall
    exact hs.closed (hfits.2 rfl)
  · have howed : d.owed = [] := by rw [owed, hd.pending_eq_nil, List.flatMap_nil]
    have hperm := made_perm_caused (sound_of_isNew hd).ledger h
    rwa [howed, List.nil_append] at hperm
  · exact hs.expired_of_dropped (step_spec hstep) hdropped
  · obtain ⟨call, hcall⟩ := List.mem_iff_getElem?.mp hleft
    have hfits := hs.fits call _ hcall
    exact hs.drains hfits.1 hnone

/-- The first item is stuck in a listener while two calls shut the dispatcher down.  The one that
waits gives the second item up after its grace period, and returns after another one though the
first item is still running.  Without it both items are left to the worker. -/
theorem closed_of_left_of_stuck_listener :
    let listener : Listener := ⟨fun _ => true, fun _ _ => ⟨.failed ⟨"busy"⟩, []⟩⟩
    let event (name : String) : Event := ⟨none, none, .projectCreated ⟨name, none⟩⟩
    let d : Dispatcher :=
      { pool := .ofSize 1 0, registry := ⟨⟨[⟨"a", listener⟩]⟩, []⟩, whitelist := ⟨.empty⟩,
        decoder := .json, graceSecs := 5, pending := [], refresh := none }
    let begin : List Act :=
      [.work (.served (.submit (.event (event "one")))),
        .work (.served (.submit (.event (event "two")))), .work (.served (.look 1)),
        .shutdown false, .goOn 0]
    let acts : List Act :=
      begin ++ [.shutdown true, .goOn 1, .goOn 1, .expire 1, .goOn 1, .goOn 1, .goOn 1, .expire 1,
        .goOn 1]
    ∃ s happened made s' happened' made',
      (⟨d, []⟩ : Attended).run (fun _ => listener) begin = some (s, happened, made)
        ∧ s.calls = [.left false] ∧ s.Drains (fun _ => listener) happened
        ∧ (⟨d, []⟩ : Attended).run (fun _ => listener) acts = some (s', happened', made')
        ∧ s'.calls = [.left false, .left true] ∧ s'.Closed (fun _ => listener) happened'
        ∧ acceptedJobs happened' = [.event (event "one"), .event (event "two")]
        ∧ s'.dispatcher.pool.running = {.event (event "one")}
        ∧ droppedJobs happened' = [.event (event "two")]
        ∧ s'.dispatcher.post (.line "three" none) = s'.dispatcher := by
  intro listener event d begin acts
  have hd : IsNew d := ⟨⟨1, 0, rfl⟩, rfl⟩
  obtain ⟨⟨s, happened, made⟩, hrun, hcalls⟩ :
      ∃ r, (⟨d, []⟩ : Attended).run (fun _ => listener) begin = some r
        ∧ r.1.calls = [.left false] :=
    Option.map_eq_some_iff.mp (by decide +kernel)
  obtain ⟨⟨s', happened', made'⟩, hrun', hend⟩ :
      ∃ r, (⟨d, []⟩ : Attended).run (fun _ => listener) acts = some r
        ∧ (r.1.calls, acceptedJobs r.2.1, r.1.dispatcher.pool.running, droppedJobs r.2.1)
          = ([.left false, .left true], [.event (event "one"), .event (event "two")],
              {.event (event "one")}, [.event (event "two")]) :=
    Option.map_eq_some_iff.mp (by decide +kernel)
  simp only [Prod.mk.injEq] at hend hcalls
  obtain ⟨hcalls', haccepted, hrunning, hdropped⟩ := hend
  have hdrains : s.Drains (fun _ => listener) happened :=
    (closed_of_left hd hrun).2.2.2 (by simp [hcalls]) (by simp [begin])
  have hclosed : s'.Closed (fun _ => listener) happened' :=
    (closed_of_left hd hrun').1 (by simp [hcalls'])
  exact ⟨s, happened, made, s', happened', made', hrun, hcalls, hdrains, hrun', hcalls', hclosed,
    haccepted, hrunning, hdropped, (hclosed.post_eq _).1⟩

end ReviewStream.Dispatcher.Attended
