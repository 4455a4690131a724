import ReviewStream.Proofs.Dispatch.Closing

/-!
# A shutdown that nobody disturbs

A dispatcher that is left alone while it is shut down takes the turns that are due, one after the
other, and comes to rest before any grace period ends.  These are steps like any others, so what is
known of a shutdown among others is known of this one.

* `Dispatcher.exists_run_eq_settleWithin`: coming to rest is a run.
* `Dispatcher.Attended.Reaches`: a run leads from one state to another.
* **`Dispatcher.Attended.reaches_shutdown`**: a shutdown that nobody disturbs is a run.
* **`Dispatcher.Attended.closed_of_shutdown`**: what it leaves behind.
-/

namespace ReviewStream.Dispatcher

variable {population : Registry.Population} {d d' : Dispatcher} {held : Bool}
  {action : Action} {calls : List Call}

/-! ## Coming to rest -/

/-- A step as one among those of others. -/
def Action.act : Action → Attended.Act
  | .work a => .work (.served a)
  | .call worker => .call worker

/-- The turns that are due are turns of workers. -/
lemma isTurn_of_due? {due : List Action} (h : due? held d = some due) :
    ∀ action ∈ due, action.act.isTurn = true := by
  rw [due?] at h
  split at h
  next w _ =>
    obtain rfl := Option.some.inj h
    simp [Action.act, Attended.Act.isTurn, Pool.Move.isTurn, Pool.Action.isTurn]
  next =>
    obtain ⟨w, -, rfl⟩ := Option.map_eq_some_iff.mp h
    intro action haction
    rcases List.mem_append.mp haction with hcall | hfinish
    · obtain ⟨-, -, rfl⟩ := List.mem_map.mp hcall
      rfl
    · obtain rfl := List.mem_singleton.mp hfinish
      rfl

/-- Coming to rest is a run in which only workers have turns. -/
lemma exists_run_eq_settleWithin (population : Registry.Population) (held : Bool) :
    ∀ (fuel : Nat) (d : Dispatcher), ∃ actions,
      (∀ action ∈ actions, action.act.isTurn = true)
        ∧ d.run population actions = some (settleWithin population held fuel d)
  | 0, d => ⟨[], by simp, rfl⟩
  | fuel + 1, d => by
      rw [settleWithin]
      cases hturn : (due? held d).bind (d.run population) with
      | none => exact ⟨[], by simp, rfl⟩
      | some r =>
          obtain ⟨due, hdue, hrun⟩ := Option.bind_eq_some_iff.mp hturn
          obtain ⟨actions, hactions, hrest⟩ := exists_run_eq_settleWithin population held fuel r.1
          refine ⟨due ++ actions, fun action haction => ?_, isRun.append_eq_some hrun hrest⟩
          exact (List.mem_append.mp haction).elim (isTurn_of_due? hdue action) (hactions action)

namespace Attended

variable {s t u : Attended} {act : Act} {waits : Bool} {now : Nat} {acts : List Act}
  {past : List (Pool.Occurrence WorkItem)} {made later : List Call}

/-! ## One among others -/

/-- A run leads from one state to another, with these calls of listeners. -/
def Reaches (population : Registry.Population) (s t : Attended) (made : List Call) : Prop :=
  ∃ acts happened, s.run population acts = some (t, happened, made)

lemma Reaches.refl (s : Attended) : Reaches population s s [] := ⟨[], [], rfl⟩

lemma Reaches.cons {happened : List (Pool.Occurrence WorkItem)}
    (hstep : s.step population act = some (t, happened, made)) (h : Reaches population t u later) :
    Reaches population s u (made ++ later) := by
  obtain ⟨acts, more, hrun⟩ := h
  exact ⟨act :: acts, happened ++ more, isRun.cons_eq_some hstep hrun⟩

lemma Reaches.trans (h : Reaches population s t made) (h' : Reaches population t u later) :
    Reaches population s u (made ++ later) := by
  obtain ⟨acts, happened, hrun⟩ := h
  obtain ⟨steps, more, hrun'⟩ := h'
  exact ⟨acts ++ steps, happened ++ more, isRun.append_eq_some hrun hrun'⟩

/-- A call has a turn. -/
lemma Reaches.goOn {c next : ShutdownCall} {happened : List (Pool.Occurrence WorkItem)}
    (hnext : c.next? d = some (d', happened, next)) (h : Reaches population ⟨d', [next]⟩ t made) :
    Reaches population ⟨d, [c]⟩ t made := by
  have hstep : (⟨d, [c]⟩ : Attended).step population (.goOn 0)
      = some (⟨d', [next]⟩, happened, []) := by simp [Attended.step, hnext]
  exact Reaches.cons hstep h

/-- The grace period of a call ends. -/
lemma Reaches.expire {c next : ShutdownCall} (hnext : c.expire? = some next)
    (h : Reaches population ⟨d, [next]⟩ t made) : Reaches population ⟨d, [c]⟩ t made := by
  have hstep : (⟨d, [c]⟩ : Attended).step population (.expire 0)
      = some (⟨d, [next]⟩, [], []) := by simp [Attended.step, hnext]
  exact Reaches.cons hstep h

/-- The turns of workers are steps among others, and no call is woken that does not wait. -/
lemma reaches_run {c : ShutdownCall} (hawake : c.wake = c) {actions : List Action}
    (hturns : ∀ action ∈ actions, action.act.isTurn = true)
    (h : d.run population actions = some (d', calls)) :
    Reaches population ⟨d, [c]⟩ ⟨d', [c]⟩ calls := by
  induction actions generalizing d calls with
  | nil =>
      cases h
      exact .refl _
  | cons action actions ih =>
      obtain ⟨v, now, more, hfirst, hrest, rfl⟩ := Dispatcher.isRun.exists_of_cons h
      have hlast := ih (fun action haction => hturns action (List.mem_cons_of_mem _ haction)) hrest
      obtain ⟨a, r, rfl, hallows, hr, rfl, rfl⟩ | ⟨worker, -, -, rfl, -⟩ := step_cases hfirst
      · have hopen : isOpen (.served a) = true := by
          have hturn := hturns (.work a) List.mem_cons_self
          cases a <;> first | rfl | cases hturn
        have hstep : (⟨d, [c]⟩ : Attended).step population (.work (.served a))
            = some (⟨r.2.foldl takeUp { d with pool := r.1 }, [c]⟩, r.2, []) := by
          simp [Attended.step, hopen, Dispatcher.move, allowsMove, hallows, Pool.move, hr, hawake]
        exact hlast.cons hstep
      · have hstep : (⟨d, [c]⟩ : Attended).step population (.call worker)
            = some (⟨v, [c]⟩, [], now) := by simp [Attended.step, hfirst]
        exact hlast.cons hstep

/-- Coming to rest is one of the things that may happen meanwhile. -/
lemma reaches_settle (population : Registry.Population) (held : Bool) (d : Dispatcher)
    {c : ShutdownCall} (hawake : c.wake = c) :
    Reaches population ⟨d, [c]⟩ ⟨(d.settle population held).1, [c]⟩
      (d.settle population held).2 := by
  obtain ⟨actions, hturns, hrun⟩ := exists_run_eq_settleWithin population held d.pool.effort d
  exact reaches_run hawake hturns hrun

/-- A call that has looked at a pool which is not terminated waits until its grace period ends. -/
lemma Reaches.drain (h : d.pool.isTerminated = false)
    (hnext : Reaches population ⟨d, [.discarding]⟩ t made) :
    Reaches population ⟨d, [.draining .looking]⟩ t made := by
  have hlook : ShutdownCall.next? d (.draining .looking) = some (d, [], .draining .waiting) := by
    simp [ShutdownCall.next?, Wait.look?, ShutdownCall.afterDraining, h]
  have hlate : ShutdownCall.next? d (.draining .late) = some (d, [], .discarding) := by
    simp [ShutdownCall.next?, Wait.look?, ShutdownCall.afterDraining, h]
  exact .goOn hlook (.expire rfl (.goOn hlate hnext))

/-- A call that waits for the running items returns in the end. -/
lemma reaches_left_of_lingering (population : Registry.Population) (d : Dispatcher) :
    Reaches population ⟨d, [.lingering .looking]⟩ ⟨d, [.left true]⟩ [] := by
  cases h : d.pool.isTerminated with
  | true =>
      have hlook : ShutdownCall.next? d (.lingering .looking) = some (d, [], .left true) := by
        simp [ShutdownCall.next?, Wait.look?, ShutdownCall.afterLingering, h]
      exact .goOn hlook (.refl _)
  | false =>
      have hlook : ShutdownCall.next? d (.lingering .looking)
          = some (d, [], .lingering .waiting) := by
        simp [ShutdownCall.next?, Wait.look?, ShutdownCall.afterLingering, h]
      have hlate : ShutdownCall.next? d (.lingering .late) = some (d, [], .left true) := by
        simp [ShutdownCall.next?, Wait.look?, ShutdownCall.afterLingering, h]
      exact .goOn hlook (.expire rfl (.goOn hlate (.refl _)))

/-- **A shutdown that nobody disturbs is one among others.** -/
theorem reaches_shutdown (h : d.shutdown population held waits now = some (d', made)) :
    Reaches population ⟨d, [.closing waits]⟩ ⟨d', [.left waits]⟩ made := by
  have hsettle (c : ShutdownCall) (hawake : c.wake = c) :=
    reaches_settle population held d.close hawake
  simp only [Dispatcher.shutdown] at h
  split_ifs at h with hleaves hnone hterminated <;>
    obtain ⟨rfl, rfl⟩ := Prod.mk.inj (Option.some.inj h)
  · obtain rfl : waits = false := by simpa using hleaves
    exact .goOn rfl (hsettle (.left false) rfl)
  all_goals
    obtain rfl : waits = true := by simpa using hleaves
    have hdrain := hsettle (.draining .looking) rfl
  · have hlook : ShutdownCall.next? (d.close.settle population held).1 (.draining .looking)
        = some ((d.close.settle population held).1, [], .left true) := by
      simp [ShutdownCall.next?, Wait.look?, ShutdownCall.afterDraining, hterminated]
    have hlast := hdrain.trans (.goOn hlook (.refl _))
    rw [List.append_nil] at hlast
    exact .goOn rfl hlast
  · set drained := (d.close.settle population held).1
    have hlinger := reaches_settle population held drained.discard.2
      (c := .lingering .looking) rfl
    have hrest := hlinger.trans (reaches_left_of_lingering population _)
    rw [List.append_nil] at hrest
    exact .goOn rfl (hdrain.trans (.drain (Bool.eq_false_iff.mpr hterminated) (.goOn rfl hrest)))

/-- **What a shutdown leaves behind that waits and that nobody disturbs.** -/
theorem closed_of_shutdown (hs : s.Sound acts past)
    (h : s.dispatcher.shutdown population held true now = some (d', made)) :
    ∃ happened, (⟨d', [.left true]⟩ : Attended).Closed population (past ++ happened) := by
  obtain ⟨taken, happened, hrun⟩ := reaches_shutdown h
  have halone : Sound ⟨s.dispatcher, []⟩ acts past :=
    ⟨hs.ledger, hs.balanced, hs.unparked, by simp, hs.asked_of_stopped⟩
  have hbegin : (⟨s.dispatcher, []⟩ : Attended).step population (.shutdown true)
      = some (⟨s.dispatcher, [.closing true]⟩, [], []) := rfl
  have hend := (halone.step hbegin).run hrun
  rw [List.append_nil] at hend
  exact ⟨happened, hend.closed ((hend.fits 0 _ rfl).2 rfl)⟩

end Attended

end ReviewStream.Dispatcher
