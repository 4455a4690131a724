import ReviewStream.Proofs.Dispatch.Owed
import ReviewStream.Proofs.Dispatch.Processing

/-!
# Scheduling does not matter

Which worker takes which item, and when, decides in which order listeners are called, but not which
calls they get: no item leaves anything behind that another one could notice.

* `Dispatcher.Worked`: what has been called and what is owed belong to the items that were taken.
* `Dispatcher.WorksOff`: a schedule by which a new dispatcher works off what is posted.
* **`Dispatcher.calls_perm_of_worksOff`**: the calls of any schedule, and what may change them.
-/

namespace ReviewStream

open Pool (startedJobs)

namespace Dispatcher

variable {population : Registry.Population} {d d' start last last' : Dispatcher}
  {a : Pool.Action WorkItem} {r : Pool WorkItem × List (Pool.Occurrence WorkItem)}
  {worker : Nat} {past : List WorkItem} {calls calls' later rest : List Call} {c : Call}
  {actions actions' : List Action}

/-! ## Runs -/

/-- The items that are posted in a sequence of steps, in order. -/
def posted (actions : List Action) : List WorkItem :=
  actions.flatMap fun
    | .work a => a.submitted
    | .call _ => []

lemma posted_append (past actions : List Action) :
    posted (past ++ actions) = posted past ++ posted actions :=
  List.flatMap_append

/-- What has been called and what is owed belong to the items that were taken. -/
structure Worked (start d : Dispatcher) (past : List WorkItem) (calls : List Call) : Prop where
  ledger : d.Ledger
  rules : start.SameRules d
  running : d.pool.stage = .running
  size_le : d.pool.size ≤ d.pool.largest
  account : ∃ taken, past = taken ++ d.pool.queue
    ∧ (calls ++ d.owed).Perm (taken.flatMap start.callsOf)
    ∧ (d.pool.largest ≤ 1 → calls ++ d.owed = taken.flatMap start.callsOf)

/-- Calls are owed to registered listeners only. -/
lemma Worked.exists_of_mem_owed (h : Worked start d past calls) (hc : c ∈ d.owed) :
    ∃ l ∈ d.registry.listeners.snapshot, l.id = c.listener := by
  obtain ⟨taken, -, hperm, -⟩ := h.account
  have hcaused := hperm.mem_iff.mp (List.mem_append_right calls hc)
  obtain ⟨item, -, hitem⟩ := List.mem_flatMap.mp hcaused
  rw [h.rules.registry_eq]
  exact WorkItem.exists_of_mem_calls hitem

/-- A section of the pool that shuts nothing down keeps the account. -/
lemma Worked.work (h : Worked start d past calls) (hallows : d.allows a = true)
    (hstep : d.pool.step a = some r) (hd : d' = r.2.foldl takeUp { d with pool := r.1 })
    (hshutdown : a ≠ .shutdown) (hshutdownNow : a ≠ .shutdownNow) :
    Worked start d' (past ++ a.submitted) calls := by
  obtain ⟨hpool, hrules, hledger, howed⟩ := work_spec h.ledger hallows hstep hd
  have hsection := Pool.outline_step h.ledger.numbered hstep
  obtain ⟨hrunning, haccepted, hdropped⟩ :=
    hsection.open_spec h.running hshutdown hshutdownNow
  have hqueue := hsection.queue_append_accepted
  rw [haccepted, hdropped, List.append_nil] at hqueue
  obtain ⟨hsize, hlargest⟩ := hsection.size_le_largest (by simpa using h.size_le)
  obtain ⟨taken, hpast, hperm, hequal⟩ := h.account
  refine ⟨hledger, h.rules.trans hrules, hpool ▸ hrunning, ?_, taken ++ startedJobs r.2, ?_, ?_,
    fun hone => ?_⟩
  · rw [hpool]
    simpa using hsize
  · rw [hpast, hpool, List.append_assoc, List.append_assoc]
    exact congrArg (taken ++ ·) hqueue
  · rw [howed, List.flatMap_append, h.rules.callsOf_eq, ← List.append_assoc]
    exact hperm.append_right _
  · rw [hpool] at hone
    rw [howed, List.flatMap_append, h.rules.callsOf_eq, ← List.append_assoc,
      hequal (Nat.le_trans hlargest hone)]

/-- A call keeps the account. -/
lemma Worked.call (h : Worked start d past calls) (hcalls : d.pendingOf worker = c :: rest) :
    Worked start (d.setPending worker rest) past (calls ++ [c]) := by
  obtain ⟨hledger, howed, hfirst⟩ := call_spec h.ledger hcalls
  obtain ⟨taken, hpast, hperm, hequal⟩ := h.account
  refine ⟨hledger, ⟨h.rules.1, h.rules.2, h.rules.3⟩, h.running, h.size_le, taken, hpast, ?_,
    fun hone => ?_⟩
  · rw [List.append_assoc]
    exact (howed.symm.append_left calls).trans hperm
  · rw [List.append_assoc, ← hequal hone, hfirst (Nat.le_trans h.size_le hone)]
    rfl

/-- Every step keeps the account. -/
lemma Worked.step {action : Action} (h : Worked start d past calls)
    (hsteady : start.registry.IsSteady population)
    (hshutdown : action ≠ .work .shutdown) (hshutdownNow : action ≠ .work .shutdownNow)
    (hstep : d.step population action = some (d', later)) :
    Worked start d' (past ++ posted [action]) (calls ++ later) := by
  obtain ⟨a, r, rfl, hallows, hr, hd, rfl⟩ | ⟨worker, c, rest, rfl, hcalls, rfl, rfl⟩ :=
    step_cases hstep
  · rw [posted, List.flatMap_singleton, List.append_nil]
    exact h.work hallows hr hd (fun heq => hshutdown (heq ▸ rfl))
      (fun heq => hshutdownNow (heq ▸ rfl))
  · -- The listener that is called is registered, so it leaves the registry as it is.
    have howed : c ∈ d.owed := (call_spec h.ledger hcalls).2.1.mem_iff.mpr List.mem_cons_self
    have hregistry : d.registry.afterCall population c = d.registry :=
      (h.rules.registry_eq ▸ hsteady).afterCall_eq (h.exists_of_mem_owed howed)
    have hposted : posted [.call worker] = [] := rfl
    rw [hregistry, hposted, List.append_nil]
    exact h.call hcalls

/-- **Runs keep the account**: whatever has been called or is owed belongs to the items that were
taken. -/
theorem Worked.run (h : Worked start d [] []) (hsteady : start.registry.IsSteady population)
    (hshutdown : .work .shutdown ∉ actions) (hshutdownNow : .work .shutdownNow ∉ actions)
    (hrun : d.run population actions = some (last, later)) :
    Worked start last (posted actions) later := by
  refine isRun.induction (I := fun d past calls => Worked start d (posted past) calls)
    (fun d past calls action next later hmem h hstep => ?_) h hrun
  have hnext := h.step hsteady (fun heq => hshutdown (heq ▸ hmem))
    (fun heq => hshutdownNow (heq ▸ hmem)) hstep
  rwa [posted_append]

/-! ## Schedules -/

/-- A dispatcher that is new works off what is posted: it takes the steps of a schedule in which
workers come and go but nothing is shut down, and in the end nothing is left to do. -/
structure WorksOff (population : Registry.Population) (d : Dispatcher) (actions : List Action)
    (last : Dispatcher) (calls : List Call) : Prop where
  starts : ∃ size keepAlive, d.pool = .ofSize size keepAlive
  owes_nothing : d.pending = []
  steady : d.registry.IsSteady population
  runs : d.run population actions = some (last, calls)
  no_shutdown : .work .shutdown ∉ actions
  no_shutdownNow : .work .shutdownNow ∉ actions
  drained : last.pool.queue = []
  done : last.pending = []

lemma worked_start (hstarts : ∃ size keepAlive, d.pool = .ofSize size keepAlive)
    (hpending : d.pending = []) : Worked d d [] [] := by
  obtain ⟨size, keepAlive, hpool⟩ := hstarts
  constructor
  case ledger =>
    refine ⟨?_, by simp [hpending], by simp [hpending]⟩
    rw [hpool]
    exact Pool.numbered_ofSize size keepAlive
  case rules => exact ⟨rfl, rfl, rfl⟩
  case running =>
    rw [hpool]
    rfl
  case size_le =>
    rw [hpool]
    exact Nat.le_refl 1
  case account =>
    have howed : d.owed = [] := by rw [owed, hpending, List.flatMap_nil]
    refine ⟨[], ?_, ?_, fun _ => ?_⟩
    · rw [hpool]
      rfl
    · rw [howed]
      exact List.Perm.refl _
    · rw [howed]
      rfl

/-- When everything is worked off, every call has been made that an item causes. -/
lemma WorksOff.calls_spec (h : WorksOff population d actions last calls) :
    calls.Perm ((posted actions).flatMap d.callsOf)
      ∧ (last.pool.largest ≤ 1 → calls = (posted actions).flatMap d.callsOf) := by
  have hstart : Worked d d [] [] := worked_start h.starts h.owes_nothing
  have hworked := hstart.run h.steady h.no_shutdown h.no_shutdownNow h.runs
  obtain ⟨taken, hposted, hperm, hequal⟩ := hworked.account
  have howed : last.owed = [] := by rw [owed, h.done, List.flatMap_nil]
  rw [h.drained, List.append_nil] at hposted
  rw [howed, List.append_nil] at hperm hequal
  rw [hposted]
  exact ⟨hperm, hequal⟩

/-- A dispatcher that begins with one worker and is never asked for more has no more. -/
theorem WorksOff.largest_le_one {size keepAlive : Nat}
    (h : WorksOff population d actions last calls) (hpool : d.pool = .ofSize size keepAlive)
    (hsize : size ≤ 1)
    (hkept : ∀ core, .work (.setCore core) ∈ actions → core ≤ 1) : last.pool.largest ≤ 1 := by
  have hlast : last.Ledger ∧ last.pool.core ≤ 1 ∧ last.pool.largest ≤ 1 := by
    refine isRun.invariant (I := fun d => d.Ledger ∧ d.pool.core ≤ 1 ∧ d.pool.largest ≤ 1)
      (fun d action next later hmem hd hstep => ?_) ?_ h.runs
    · obtain ⟨hledger, hcore, hlargest⟩ := hd
      obtain ⟨a, r, rfl, hallows, hr, hnext, -⟩ | ⟨worker, c, rest, rfl, hcalls, rfl, -⟩ :=
        step_cases hstep
      · obtain ⟨hpool, -, hledger', -⟩ := work_spec hledger hallows hr hnext
        have hsection := Pool.outline_step hledger.numbered hr
        refine ⟨hledger', ?_⟩
        rw [hpool]
        exact hsection.largest_le_one hcore hlargest fun core heq => hkept core (heq ▸ hmem)
      · have hledger' := (call_spec hledger hcalls).1
        exact ⟨⟨hledger'.numbered, hledger'.nodup, hledger'.owing⟩, hcore, hlargest⟩
    · refine ⟨(worked_start h.starts h.owes_nothing).ledger, ?_, ?_⟩ <;> rw [hpool]
      · exact Nat.max_le.mpr ⟨hsize, Nat.le_refl 1⟩
      · exact Nat.le_refl 1
  exact hlast.2.2

/-- **Scheduling does not matter.**  However many workers there are, however they are resized,
retire and take turns, and whatever the decoder and the listeners refuse or crash on: when all that
was posted is worked off, the listeners have got exactly the calls that the items cause one by one.
With a single worker they have got them in the order of the posts.

What one of the listeners is, and how any of them end their calls, makes no difference for what the
others get, on any two schedules. -/
theorem calls_perm_of_worksOff {population' : Registry.Population} {x : String}
    (h : WorksOff population d actions last calls)
    (h' : WorksOff population' d' actions' last' calls')
    (hposted : posted actions' = posted actions) (hwhitelist : d'.whitelist = d.whitelist)
    (hdecoder : d'.decoder = d.decoder) (hagree : d.registry.AgreeExcept x d'.registry) :
    let alone (item : WorkItem) := (item.process d.whitelist.snapshot d.decoder d.registry).made
    calls.Perm ((posted actions).flatMap alone)
      ∧ (last.pool.largest ≤ 1 → calls = (posted actions).flatMap alone)
      ∧ ∀ id, id ≠ x →
          (received id calls).Perm (received id calls')
            ∧ (last.pool.largest ≤ 1 → last'.pool.largest ≤ 1 →
                received id calls = received id calls') := by
  intro alone
  have halone : alone = d.callsOf := by
    funext item
    exact congrArg Attempt.made (item.process_eq _ _ _)
  obtain ⟨hperm, hequal⟩ := h.calls_spec
  obtain ⟨hperm', hequal'⟩ := h'.calls_spec
  have hothers : ∀ id, id ≠ x → received id ((posted actions).flatMap d.callsOf)
      = received id ((posted actions').flatMap d'.callsOf) := by
    intro id hid
    rw [hposted, received_flatMap, received_flatMap]
    refine congrArg (posted actions).flatMap ?_
    funext item
    rw [callsOf, callsOf, hwhitelist, hdecoder]
    exact item.received_calls_eq hagree hid
  rw [halone]
  refine ⟨hperm, hequal, fun id hid => ⟨?_, fun hone hone' => ?_⟩⟩
  · calc (received id calls).Perm (received id ((posted actions).flatMap d.callsOf)) :=
          hperm.filter _
      _ = received id ((posted actions').flatMap d'.callsOf) := hothers id hid
      List.Perm _ (received id calls') := (hperm'.filter _).symm
  · rw [hequal hone, hequal' hone', hothers id hid]

/-- One worker, whose listeners crash, and two workers that overtake each other, with another first
listener.  The decoder crashes on one line and refuses the other one. -/
theorem calls_perm_of_two_schedules :
    let crashing : Listener := ⟨fun _ => false, fun _ _ => ⟨.crashed, []⟩⟩
    let failing : Listener := ⟨fun _ => true, fun _ _ => ⟨.failed ⟨"busy"⟩, []⟩⟩
    let event (name : String) : Event := ⟨none, none, .projectCreated ⟨name, none⟩⟩
    let decoder : Decoder :=
      ⟨fun _ text => if text = "boom" then .crashed else .refused .syntaxFault,
        fun _ _ => .event (event "two")⟩
    let d : Dispatcher :=
      { pool := .ofSize 1 0, registry := ⟨⟨[⟨"a", crashing⟩, ⟨"b", crashing⟩]⟩, []⟩,
        whitelist := ⟨.empty⟩, decoder, graceSecs := 0, pending := [], refresh := none }
    let d' : Dispatcher := { d with registry := ⟨⟨[⟨"a", failing⟩, ⟨"b", crashing⟩]⟩, []⟩ }
    let posts : List Action :=
      [.work (.submit (.line "boom" none)), .work (.submit (.line "bad" none)),
        .work (.submit (.event (event "one"))), .work (.submit (.payload .null none))]
    let look (worker : Nat) : Action := .work (.look worker)
    let done (worker : Nat) : Action := .work (.finish worker .returned)
    let crash (worker : Nat) : Action := .work (.finish worker .crashed)
    let actions : List Action :=
      posts ++ [look 1, crash 1, done 1, .call 1, .call 1, done 1, .call 1, .call 1, done 1]
    let actions' : List Action :=
      .work (.setMax 2) :: .work (.setCore 2) :: posts ++ [look 1, look 2, done 2, crash 1, .call 1,
        .call 2, .call 1, .call 2, done 1, done 2, .work (.expire 1), look 1]
    let alone (item : WorkItem) := (item.process d.whitelist.snapshot d.decoder d.registry).made
    ∃ last calls last' calls', WorksOff (fun _ => crashing) d actions last calls
      ∧ WorksOff (fun _ => failing) d' actions' last' calls'
      ∧ last.pool.largest = 1 ∧ last'.pool.largest = 2
      ∧ calls = (posted actions).flatMap alone
      ∧ (received "b" calls).Perm (received "b" calls')
      ∧ received "b" calls = [⟨"b", .generic, event "one"⟩, ⟨"b", .generic, event "two"⟩]
      ∧ received "b" calls' = [⟨"b", .generic, event "two"⟩, ⟨"b", .generic, event "one"⟩] := by
  intro crashing failing event decoder d d' posts look done crash actions actions' alone
  obtain ⟨⟨last, calls⟩, hruns, hend⟩ :
      ∃ r, d.run (fun _ => crashing) actions = some r
        ∧ (r.1.pool.queue, r.1.pending, r.1.pool.largest, received "b" r.2)
          = ([], [], 1, [⟨"b", .generic, event "one"⟩, ⟨"b", .generic, event "two"⟩]) :=
    Option.map_eq_some_iff.mp (by decide +kernel)
  obtain ⟨⟨last', calls'⟩, hruns', hend'⟩ :
      ∃ r, d'.run (fun _ => failing) actions' = some r
        ∧ (r.1.pool.queue, r.1.pending, r.1.pool.largest, received "b" r.2)
          = ([], [], 2, [⟨"b", .generic, event "two"⟩, ⟨"b", .generic, event "one"⟩]) :=
    Option.map_eq_some_iff.mp (by decide +kernel)
  simp only [Prod.mk.injEq] at hend hend'
  obtain ⟨hdrained, hdone, hone, hb⟩ := hend
  obtain ⟨hdrained', hdone', htwo, hb'⟩ := hend'
  have h : WorksOff (fun _ => crashing) d actions last calls :=
    ⟨⟨1, 0, rfl⟩, rfl, fun _ _ _ _ => rfl, hruns, by decide, by decide, hdrained, hdone⟩
  have h' : WorksOff (fun _ => failing) d' actions' last' calls' :=
    ⟨⟨1, 0, rfl⟩, rfl, fun _ _ _ _ => rfl, hruns', by decide, by decide, hdrained', hdone'⟩
  have hposted : posted actions' = posted actions := rfl
  have hagree : d.registry.AgreeExcept "a" d'.registry := ⟨rfl, rfl⟩
  obtain ⟨-, hequal, hothers⟩ := calls_perm_of_worksOff h h' hposted rfl rfl hagree
  exact ⟨last, calls, last', calls', h, h', hone, htwo, hequal (Nat.le_of_eq hone),
    (hothers "b" (by decide)).1, hb, hb'⟩

end Dispatcher

end ReviewStream
