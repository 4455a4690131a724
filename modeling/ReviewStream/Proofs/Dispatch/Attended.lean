import ReviewStream.Dispatch.Closing
import ReviewStream.Proofs.Dispatch.Owed
import ReviewStream.Proofs.Pool.Draining

/-!
# Shutting a dispatcher down, step by step

Whoever shuts a dispatcher down takes its turns among those of everybody else.  To the pool each of
these turns is one of its sections, or nothing, and how far a call has come tells what has become of
the pool by then.

* `ShutdownCall.Turn`: everything that a call may do at its turn.
* `Dispatcher.Attended.Step`: everything that can happen in a step.
* **`Dispatcher.Attended.Step.dispatcher_spec`**: what a step does to the pool and to the calls that
  are owed.
* `ShutdownCall.Fits`: what is known when a call has come so far.
* **`Dispatcher.Attended.sound_of_run`**: what is known after any run.
-/

namespace ReviewStream

open Pool (acceptedJobs startedJobs droppedJobs endedJobs)

/-! ## Sections of the pool -/

namespace Pool

variable {J : Type} {p : Pool J} {v : Nat}

/-- No job is interrupted by a thread that cannot be started. -/
lemma Runs.move {m : Move J} {r : Pool J × List (Occurrence J)} (h : p.Runs v) (hp : p.Numbered)
    (hmove : p.move m = some r) (hgoes : ∀ ending, m ≠ .served (.finish v ending)) :
    r.1.Runs v := by
  cases m with
  | served a => exact h.step hp hmove fun ending ha => hgoes ending (ha ▸ rfl)
  | submitStarved job reason =>
      simp only [Pool.move] at hmove
      split_ifs at hmove <;> obtain rfl := Option.some.inj hmove
      · exact h
      · exact Runs.wakeOne (p := { p with queue := p.queue ++ [job] }) h
  | setCoreStarved core started reason =>
      simp only [Pool.move] at hmove
      split_ifs at hmove
      obtain rfl := Option.some.inj hmove
      exact Runs.spawnUpTo (p := { p with core }) started h

end Pool

namespace Dispatcher

variable {d d' : Dispatcher} {m : Pool.Move WorkItem} {happened : List (Pool.Occurrence WorkItem)}

/-- A section without its thread starts no item. -/
lemma started_notMem_of_starved {r : Pool WorkItem × List (Pool.Occurrence WorkItem)}
    (hmove : d.pool.move m = some r) (hstarved : ∀ a, m ≠ .served a) :
    ∀ worker item, .started worker item ∉ r.2 := by
  cases m with
  | served a => exact absurd rfl (hstarved a)
  | submitStarved job reason =>
      simp only [Pool.move] at hmove
      split_ifs at hmove <;> obtain rfl := Option.some.inj hmove <;> simp
  | setCoreStarved core started reason =>
      simp only [Pool.move] at hmove
      split_ifs at hmove
      obtain rfl := Option.some.inj hmove
      simp

/-- **What a section of the pool does to a dispatcher**, whatever threads are refused in it. -/
theorem move_spec (h : d.Ledger) (hmove : d.move m = some (d', happened)) :
    d.pool.move m = some (d'.pool, happened) ∧ d.SameRules d' ∧ d'.Ledger
      ∧ d'.owed = d.owed ++ (startedJobs happened).flatMap d.callsOf := by
  rw [Dispatcher.move] at hmove
  split_ifs at hmove with hallows
  obtain ⟨r, hr, heq⟩ := Option.map_eq_some_iff.mp hmove
  obtain ⟨rfl, rfl⟩ := Prod.mk.inj heq
  by_cases hserved : ∃ a, m = .served a
  · obtain ⟨a, rfl⟩ := hserved
    obtain ⟨hpool, hspec⟩ := work_spec h hallows hr rfl
    rw [hpool]
    exact ⟨hr, hspec⟩
  · have hstarved := not_exists.mp hserved
    obtain ⟨hfold, hnone⟩ := foldl_takeUp_of_not_started (d := { d with pool := r.1 })
      (started_notMem_of_starved hr hstarved)
    rw [hfold, hnone]
    refine ⟨hr, ⟨rfl, rfl, rfl⟩, ⟨h.numbered.move hr, h.nodup, fun entry hentry => ?_⟩,
      (List.append_nil _).symm⟩
    obtain ⟨hcalls, hruns⟩ := h.owing entry hentry
    exact ⟨hcalls, hruns.move h.numbered hr fun ending => hstarved _⟩

end Dispatcher

/-! ## The turns of a call -/

/-- Everything that a call may do at its turn. -/
inductive ShutdownCall.Turn (d : Dispatcher) :
    ShutdownCall → Dispatcher → List (Pool.Occurrence WorkItem) → ShutdownCall → Prop
  | close {waits : Bool} :
      Turn d (.closing waits) d.close [] (if waits then .draining .looking else .left false)
  | drain {wait w : Wait} (hlook : wait.look? d.pool.isTerminated = some w) :
      Turn d (.draining wait) d [] (afterDraining w)
  | discard : Turn d .discarding d.discard.2 [.dropped d.discard.1] (.lingering .looking)
  | linger {wait w : Wait} (hlook : wait.look? d.pool.isTerminated = some w) :
      Turn d (.lingering wait) d [] (afterLingering w)

lemma ShutdownCall.turn_of_next? {d d' : Dispatcher} {c next : ShutdownCall}
    {happened : List (Pool.Occurrence WorkItem)} (h : c.next? d = some (d', happened, next)) :
    c.Turn d d' happened next := by
  cases c with
  | closing waits =>
      cases waits <;> cases h <;> exact .close
  | draining wait =>
      obtain ⟨w, hlook, heq⟩ := Option.map_eq_some_iff.mp h
      cases heq
      exact .drain hlook
  | discarding =>
      cases h
      exact .discard
  | lingering wait =>
      obtain ⟨w, hlook, heq⟩ := Option.map_eq_some_iff.mp h
      cases heq
      exact .linger hlook
  | left waited => cases h

namespace Dispatcher

variable {d d' : Dispatcher} {happened : List (Pool.Occurrence WorkItem)}

namespace Attended

variable {population : Registry.Population} {s t : Attended} {act : Act} {acts : List Act}
  {past : List (Pool.Occurrence WorkItem)} {made : List Call}

/-! ## Steps -/

/-- Everything that can happen in a step. -/
inductive Step (population : Registry.Population) (s : Attended) :
    Act → Attended → List (Pool.Occurrence WorkItem) → List Call → Prop
  | work {m : Pool.Move WorkItem} {d : Dispatcher} {calls : List ShutdownCall}
      {happened : List (Pool.Occurrence WorkItem)} (hopen : isOpen m = true)
      (hmove : s.dispatcher.move m = some (d, happened))
      (hcalls : calls = s.calls ∨ calls = s.calls.map (·.wake)) :
      Step population s (.work m) ⟨d, calls⟩ happened []
  | call {worker : Nat} {c : Call} {rest : List Call}
      (hcalls : s.dispatcher.pendingOf worker = c :: rest) :
      Step population s (.call worker)
        ⟨{ s.dispatcher.setPending worker rest with
            registry := s.dispatcher.registry.afterCall population c }, s.calls⟩ [] [c]
  | change {registry : Registry} {whitelist : WhitelistHandle} :
      Step population s (.change registry whitelist)
        ⟨{ s.dispatcher with registry, whitelist }, s.calls⟩ [] []
  | shutdown {waits : Bool} :
      Step population s (.shutdown waits) ⟨s.dispatcher, s.calls ++ [.closing waits]⟩ [] []
  | goOn {call : Nat} {c next : ShutdownCall} {d : Dispatcher}
      {happened : List (Pool.Occurrence WorkItem)} (hc : s.calls[call]? = some c)
      (hturn : c.Turn s.dispatcher d happened next) :
      Step population s (.goOn call) ⟨d, s.calls.set call next⟩ happened []
  | expire {call : Nat} {c next : ShutdownCall} (hc : s.calls[call]? = some c)
      (hnext : c.expire? = some next) :
      Step population s (.expire call) ⟨s.dispatcher, s.calls.set call next⟩ [] []

lemma step_spec (h : s.step population act = some (t, happened, made)) :
    Step population s act t happened made := by
  cases act with
  | work m =>
      rw [step] at h
      split_ifs at h with hopen
      obtain ⟨⟨d, now⟩, hmove, heq⟩ := Option.map_eq_some_iff.mp h
      simp only [Prod.mk.injEq] at heq
      obtain ⟨rfl, rfl, rfl⟩ := heq
      refine .work hopen hmove ?_
      split_ifs
      · exact .inr rfl
      · exact .inl rfl
  | call worker =>
      obtain ⟨⟨d, now⟩, hstep, heq⟩ := Option.map_eq_some_iff.mp h
      simp only [Prod.mk.injEq] at heq
      obtain ⟨rfl, rfl, rfl⟩ := heq
      obtain ⟨a, r, hact, -⟩ | ⟨worker, c, rest, hact, hcalls, rfl, rfl⟩ := step_cases hstep
      · cases hact
      · obtain rfl := Action.call.inj hact
        exact .call hcalls
  | change registry whitelist | shutdown waits =>
      simp only [step, Option.some.injEq, Prod.mk.injEq] at h
      obtain ⟨rfl, rfl, rfl⟩ := h
      constructor
  | goOn call =>
      simp only [step, Option.bind_eq_bind, Option.pure_def, Option.bind_eq_some_iff,
        Option.some.injEq, Prod.mk.injEq] at h
      obtain ⟨c, hc, ⟨d, now, next⟩, hnext, rfl, rfl, rfl⟩ := h
      exact .goOn hc (ShutdownCall.turn_of_next? hnext)
  | expire call =>
      simp only [step, Option.bind_eq_bind, Option.pure_def, Option.bind_eq_some_iff,
        Option.some.injEq, Prod.mk.injEq] at h
      obtain ⟨c, hc, next, hnext, rfl, rfl, rfl⟩ := h
      exact .expire hc hnext

/-- The pool may have taken a section, or not. -/
def Passes (d d' : Dispatcher) (happened : List (Pool.Occurrence WorkItem)) : Prop :=
  d'.pool = d.pool ∧ happened = [] ∨ ∃ m, d.pool.move m = some (d'.pool, happened)

/-- The turns of a call that shuts a dispatcher down are sections of the pool, or nothing to it. -/
lemma passes_of_turn {c next : ShutdownCall} (h : d.Ledger)
    (hturn : c.Turn d d' happened next) :
    d'.Ledger ∧ Passes d d' happened ∧ d'.owed = d.owed ∧ startedJobs happened = [] := by
  have hledger : ∀ {a : Pool.Action WorkItem}, d.allows a = true →
      d.pool.step a = some (d'.pool, happened) → d'.pending = d.pending → d'.Ledger := by
    intro a hallows hstep hpending
    have hpool := h.withPool hallows hstep
    refine ⟨hpool.numbered, ?_, ?_⟩ <;> rw [hpending]
    · exact hpool.nodup
    · exact hpool.owing
  cases hturn with
  | close =>
      have hstep : d.pool.step .shutdown = some (d.close.pool, []) := rfl
      exact ⟨hledger rfl hstep rfl, .inr ⟨.served .shutdown, hstep⟩, rfl, rfl⟩
  | discard =>
      have hstep : d.pool.step .shutdownNow = some (d.discard.2.pool, [.dropped d.discard.1]) := rfl
      exact ⟨hledger rfl hstep rfl, .inr ⟨.served .shutdownNow, hstep⟩, rfl, rfl⟩
  | drain _ | linger _ => exact ⟨h, .inl ⟨rfl, rfl⟩, rfl, rfl⟩

/-- **What a step does to a dispatcher.**  To the pool it is a section, or nothing.  The calls that
are made are among those that were owed, and what is started adds to them. -/
theorem Step.dispatcher_spec (h : Step population s act t happened made)
    (hs : s.dispatcher.Ledger) :
    t.dispatcher.Ledger ∧ Passes s.dispatcher t.dispatcher happened
      ∧ (made ++ t.dispatcher.owed).Perm
          (s.dispatcher.owed ++ (startedJobs happened).flatMap s.dispatcher.callsOf) := by
  cases h with
  | work hopen hmove _ =>
      obtain ⟨hpool, -, hledger, howed⟩ := move_spec hs hmove
      exact ⟨hledger, .inr ⟨_, hpool⟩, .of_eq howed⟩
  | @call worker c rest hcalls =>
      obtain ⟨hledger, howed, -⟩ := call_spec hs hcalls
      refine ⟨⟨hledger.numbered, hledger.nodup, hledger.owing⟩, .inl ⟨rfl, rfl⟩, ?_⟩
      have hmade := howed.symm
      rwa [← List.append_nil s.dispatcher.owed] at hmade
  | change =>
      refine ⟨⟨hs.numbered, hs.nodup, hs.owing⟩, .inl ⟨rfl, rfl⟩, .of_eq ?_⟩
      exact (List.append_nil _).symm
  | shutdown | expire _ _ =>
      exact ⟨hs, .inl ⟨rfl, rfl⟩, .of_eq (List.append_nil _).symm⟩
  | goOn hc hturn =>
      obtain ⟨hledger, hpasses, howed, hstarted⟩ := passes_of_turn hs hturn
      refine ⟨hledger, hpasses, .of_eq ?_⟩
      rw [hstarted]
      simpa using howed

end Attended

end Dispatcher

/-! ## How far a call has come -/

/-- The end of a pool is as near as that of another one, or nearer. -/
structure Pool.Nearer {J : Type} (p q : Pool J) : Prop where
  closed : p.stage ≠ .running → q.stage ≠ .running
  stopped : p.stage = .stopped → q.stage = .stopped
  terminated : p.isTerminated = true → q.isTerminated = true

lemma Pool.nearer_of_move {J : Type} {p : Pool J} {m : Pool.Move J}
    {r : Pool J × List (Pool.Occurrence J)} (hp : p.Numbered) (h : p.move m = some r) :
    p.Nearer r.1 where
  closed := fun hclosed => (outline_move hp h).stage_ne_running_iff.mpr (.inl hclosed)
  stopped := fun hstop => ((outline_move hp h).of_stopped hstop).2
  terminated := fun hterminated => (isTerminated_of_move hp h hterminated).1

namespace ShutdownCall

variable {p q : Pool WorkItem} {d d' : Dispatcher} {asked expired : Prop} {c next : ShutdownCall}
  {happened : List (Pool.Occurrence WorkItem)}

/-- What is known when a call has come so far.  It waits only if somebody asked for that, and goes
on to give items up only if its grace period has ended. -/
def Fits (p : Pool WorkItem) (asked expired : Prop) : ShutdownCall → Prop
  | .closing waits => waits = true → asked
  | .draining wait => asked ∧ p.stage ≠ .running ∧ (wait = .late → expired)
  | .discarding => asked ∧ p.stage ≠ .running ∧ expired
  | .lingering _ => p.stage = .stopped
  | .left waited => p.stage ≠ .running ∧ (waited = true → p.Halted)

lemma Fits.mono {asked' expired' : Prop} (h : c.Fits p asked expired) (hpool : p.Nearer q)
    (hasked : asked → asked') (hexpired : expired → expired') : c.Fits q asked' expired' := by
  cases c with
  | closing waits => exact fun hwaits => hasked (h hwaits)
  | draining wait => exact ⟨hasked h.1, hpool.closed h.2.1, fun hlate => hexpired (h.2.2 hlate)⟩
  | discarding => exact ⟨hasked h.1, hpool.closed h.2.1, hexpired h.2.2⟩
  | lingering wait => exact hpool.stopped h
  | left waited =>
      refine ⟨hpool.closed h.1, fun hwaited => ?_⟩
      exact (h.2 hwaited).imp hpool.stopped hpool.terminated

lemma Fits.wake (h : c.Fits p asked expired) : c.wake.Fits p asked expired := by
  cases c with
  | draining wait =>
      refine ⟨h.1, h.2.1, fun hlate => h.2.2 ?_⟩
      cases wait <;> simp_all [Wait.wake]
  | _ => exact h

lemma Fits.expire? (h : c.Fits p asked expired) (hexpired : expired)
    (hnext : c.expire? = some next) : next.Fits p asked expired := by
  cases c with
  | draining wait =>
      obtain ⟨w, -, rfl⟩ := Option.map_eq_some_iff.mp hnext
      exact ⟨h.1, h.2.1, fun _ => hexpired⟩
  | lingering wait =>
      obtain ⟨w, -, rfl⟩ := Option.map_eq_some_iff.mp hnext
      exact h
  | closing _ | discarding | left _ => cases hnext

/-- A call that goes on knows what it has seen or done. -/
lemma Fits.turn (h : c.Fits d.pool asked expired) (hturn : c.Turn d d' happened next) :
    next.Fits d'.pool asked expired := by
  cases hturn with
  | @close waits =>
      have hclosed : d.close.pool.stage ≠ .running := by
        simp only [Dispatcher.close, Pool.shutdown, Pool.wakeAll]
        split_ifs with hrun
        · rintro ⟨⟩
        · exact hrun
      cases waits with
      | false => exact ⟨hclosed, by rintro ⟨⟩⟩
      | true => exact ⟨h rfl, hclosed, by rintro ⟨⟩⟩
  | @drain wait w hlook =>
      cases hterminated : d.pool.isTerminated with
      | true =>
          -- Whoever looks at a terminated pool returns.
          have hreturned : w = .returned true := by
            rw [hterminated] at hlook
            cases wait <;> simp_all [Wait.look?]
          subst hreturned
          exact ⟨h.2.1, fun _ => .inr hterminated⟩
      | false =>
          rw [hterminated] at hlook
          cases wait with
          | looking =>
              obtain rfl : Wait.waiting = w := by simpa [Wait.look?] using hlook
              exact ⟨h.1, h.2.1, by rintro ⟨⟩⟩
          | late =>
              obtain rfl : Wait.returned false = w := by simpa [Wait.look?] using hlook
              exact ⟨h.1, h.2.1, h.2.2 rfl⟩
          | waiting | returned _ => cases hlook
  | discard => exact rfl
  | @linger wait w _ =>
      have hstop : d.pool.stage = .stopped := h
      cases w with
      | returned terminated => exact ⟨by simp [hstop], fun _ => .inl hstop⟩
      | looking | waiting | late => exact hstop

end ShutdownCall

/-! ## Runs -/

namespace Dispatcher.Attended

variable {population : Registry.Population} {s t u : Attended} {act : Act} {acts : List Act}
  {past happened more : List (Pool.Occurrence WorkItem)} {made later : List Call}

/-- A run is a sequence of steps, in which something happens to items and calls are made. -/
lemma isRun : IsRun (Attended.step population) (run population) ([], [])
    fun r r' => (r.1 ++ r'.1, r.2 ++ r'.2) :=
  .ofPairs (fun _ => rfl) fun _ _ _ => rfl

/-- What is known of a dispatcher and of the calls that shut it down. -/
structure Sound (s : Attended) (acts : List Act) (past : List (Pool.Occurrence WorkItem)) :
    Prop where
  ledger : s.dispatcher.Ledger
  balanced : s.dispatcher.pool.Balanced past
  unparked : s.dispatcher.pool.outline.Unparked
  fits : ∀ (call : Nat) (c : ShutdownCall), s.calls[call]? = some c →
    c.Fits s.dispatcher.pool (.shutdown true ∈ acts) (.expire call ∈ acts)
  asked_of_stopped : s.dispatcher.pool.stage = .stopped → .shutdown true ∈ acts

/-- A step does not undo what calls know. -/
lemma Sound.nearer (hs : s.Sound acts past) (h : Step population s act t happened made) :
    s.dispatcher.pool.Nearer t.dispatcher.pool := by
  obtain ⟨-, ⟨hpool, -⟩ | ⟨m, hmove⟩, -⟩ := h.dispatcher_spec hs.ledger
  · rw [hpool]
    exact ⟨id, id, id⟩
  · exact Pool.nearer_of_move hs.ledger.numbered hmove

/-- How far the calls have come after a step. -/
lemma Sound.fits_step (hs : s.Sound acts past) (h : Step population s act t happened made)
    {call : Nat} {c : ShutdownCall} (hc : t.calls[call]? = some c) :
    c.Fits t.dispatcher.pool (.shutdown true ∈ acts ++ [act]) (.expire call ∈ acts ++ [act]) := by
  have hnearer := hs.nearer h
  -- What a call knew before, it knows after the step.
  have hkept : ∀ {call : Nat} {c : ShutdownCall}, s.calls[call]? = some c →
      c.Fits t.dispatcher.pool (.shutdown true ∈ acts ++ [act]) (.expire call ∈ acts ++ [act]) :=
    fun hc => (hs.fits _ _ hc).mono hnearer (List.mem_append_left _) (List.mem_append_left _)
  cases h with
  | work hopen hmove hcalls =>
      rcases hcalls with rfl | rfl
      · exact hkept hc
      · rw [List.getElem?_map] at hc
        obtain ⟨before, hbefore, rfl⟩ := Option.map_eq_some_iff.mp hc
        exact (hkept hbefore).wake
  | call _ | change => exact hkept hc
  | @shutdown waits =>
      rw [List.getElem?_append] at hc
      split_ifs at hc
      · exact hkept hc
      · obtain rfl : .closing waits = c := by
          simp only [List.getElem?_singleton] at hc
          split_ifs at hc
          exact Option.some.inj hc
        rintro rfl
        simp
  | goOn hbefore hturn =>
      rw [List.getElem?_set] at hc
      split_ifs at hc with heq
      · subst heq
        obtain rfl := Option.some.inj hc
        have hfits := (hs.fits _ _ hbefore).turn hturn
        exact hfits.mono ⟨id, id, id⟩ (List.mem_append_left _) (List.mem_append_left _)
      · exact hkept hc
  | expire hbefore hnext =>
      rw [List.getElem?_set] at hc
      split_ifs at hc with heq
      · subst heq
        obtain rfl := Option.some.inj hc
        exact (hkept hbefore).expire? (by simp) hnext
      · exact hkept hc

/-- Nobody stops a pool but a call that waits, after its grace period. -/
lemma Sound.asked_step (hs : s.Sound acts past) (h : Step population s act t happened made)
    (hstop : t.dispatcher.pool.stage = .stopped) : .shutdown true ∈ acts ++ [act] := by
  -- What does not change the stage leaves the question where it was.
  have hkept : s.dispatcher.pool.stage = .stopped → .shutdown true ∈ acts ++ [act] :=
    fun hbefore => List.mem_append_left _ (hs.asked_of_stopped hbefore)
  cases h with
  | work hopen hmove _ =>
      obtain ⟨hpool, -⟩ := move_spec hs.ledger hmove
      have hstage := (Pool.outline_move hs.ledger.numbered hpool).stage_eq
        (by rintro rfl; cases hopen) (by rintro rfl; cases hopen)
      exact hkept (hstage.symm.trans hstop)
  | call _ | change | shutdown | expire _ _ => exact hkept hstop
  | @goOn call c next d _ hc hturn =>
      have hfits := hs.fits call c hc
      cases hturn with
      | close =>
          refine hkept ?_
          simp only [Dispatcher.close, Pool.shutdown, Pool.wakeAll] at hstop
          split_ifs at hstop
          exact hstop
      | discard => exact List.mem_append_left _ hfits.1
      | drain _ | linger _ => exact hkept hstop

/-- Every step keeps what is known. -/
lemma Sound.step (hs : s.Sound acts past)
    (h : s.step population act = some (t, happened, made)) :
    t.Sound (acts ++ [act]) (past ++ happened) := by
  have hstep := step_spec h
  obtain ⟨hledger, hpasses, -⟩ := hstep.dispatcher_spec hs.ledger
  constructor
  case ledger => exact hledger
  case balanced =>
    rcases hpasses with ⟨hpool, rfl⟩ | ⟨m, hmove⟩
    · rw [hpool, List.append_nil]
      exact hs.balanced
    · exact hs.balanced.move hmove
  case unparked =>
    rcases hpasses with ⟨hpool, -⟩ | ⟨m, hmove⟩
    · rw [hpool]
      exact hs.unparked
    · exact hs.unparked.move (Pool.outline_move hs.ledger.numbered hmove)
  case fits => exact fun call c hc => hs.fits_step hstep hc
  case asked_of_stopped => exact fun hstop => hs.asked_step hstep hstop

/-- Every run keeps what is known. -/
lemma Sound.run {steps : List Act} (hs : s.Sound acts past)
    (h : s.run population steps = some (t, happened, made)) :
    t.Sound (acts ++ steps) (past ++ happened) :=
  isRun.induction_after (I := fun s acts record => s.Sound acts record.1)
    (fun _ _ _ _ _ _ _ hs hstep => hs.step hstep) acts (past, []) hs h

/-- A dispatcher that nobody has used yet. -/
structure IsNew (d : Dispatcher) : Prop where
  pool_eq : ∃ size keepAlive, d.pool = .ofSize size keepAlive
  pending_eq_nil : d.pending = []

lemma sound_of_isNew {d : Dispatcher} (hd : IsNew d) : Sound ⟨d, []⟩ [] [] := by
  obtain ⟨size, keepAlive, hpool⟩ := hd.pool_eq
  constructor
  case ledger =>
    refine ⟨?_, by simp [hd.pending_eq_nil], by simp [hd.pending_eq_nil]⟩
    rw [hpool]
    exact Pool.numbered_ofSize size keepAlive
  case balanced =>
    rw [hpool]
    exact Pool.balanced_ofSize size keepAlive
  case unparked =>
    rw [hpool]
    exact fun _ => rfl
  case fits => simp
  case asked_of_stopped =>
    intro hstop
    rw [hpool] at hstop
    cases hstop

/-- **What is known after any run.** -/
theorem sound_of_run {d : Dispatcher} (hd : IsNew d)
    (h : (⟨d, []⟩ : Attended).run population acts = some (s, happened, made)) :
    s.Sound acts happened :=
  (sound_of_isNew hd).run h

end Dispatcher.Attended

end ReviewStream
