import Mathlib.Tactic.ByContra
import ReviewStream.Proofs.Connection.Sessions

/-!
# A reconnect replaces the session

A reconnect cancels the session through the token that the task lays out for it while the session
is in use.  Between two streams there is no token, and a session that is kept there is out of reach.

* `Course.spare?`: the session that the task holds out of reach.
* `Course.Barred`: no stream will be opened on a session any more.
* **`Course.spare_of_opened_after_reconnect`**: the only session of before on which a stream is
  opened after a reconnect is one that was out of reach.
-/

namespace ReviewStream

open Connection (Move)

/-! ## In reach and out of reach -/

/-- Whether a token is laid out while the task waits. -/
def Task.isArmed : Task → Bool
  | .opening _ | .reading _ | .pausing _ => true
  | _ => false

/-- Whether a token is laid out. -/
def Point.isArmed (task : Task) : Point → Bool
  | .waiting => task.isArmed
  | .guard _ | .ask _ | .establish _ | .announce _ | .read _ | .unguard _ _ | .disarm _ _ => true
  | _ => false

/-- The session for the next stream, for which there is no token while the task waits. -/
def Task.spare? : Task → Option Nat
  | .backingOff reusable => reusable
  | _ => none

/-- The session for the next stream, for which there is no token: one that is kept from the last
stream, or one that has just told its version. -/
def Point.spare? (task : Task) : Point → Option Nat
  | .waiting => task.spare?
  | .loop reusable | .choose reusable | .report reusable _ | .mourn reusable _ => reusable
  | .reuse session | .arm session | .judge session _ false => some session
  | _ => none

/-- The sessions on which streams have been asked for. -/
def opened (deeds : List Deed) : List Nat :=
  deeds.filterMap fun
    | .call (.openStream session _) => some session
    | _ => none

lemma exists_of_mem_opened {session : Nat} {deeds : List Deed} (h : session ∈ opened deeds) :
    ∃ command, .call (.openStream session command) ∈ deeds := by
  obtain ⟨d, hd, hsession⟩ := List.mem_filterMap.mp h
  split at hsession
  next command => exact ⟨command, by rwa [← Option.some.inj hsession]⟩
  next => cases hsession

/-- Whether a reconnect is counted. -/
def Happening.isCount : Happening → Bool
  | .strike .count => true
  | _ => false

namespace Course

variable {r last : Course} {c : Connection} {x : Happening} {session : Nat}
  {turn : Course × List Deed} {happenings : List Happening} {sights : List Sight}

/-- The session that the task holds out of reach. -/
def spare? (r : Course) : Option Nat := r.point.spare? r.connection.task

/-- A token is laid out exactly while a session is in use. -/
def Armed (r : Course) : Prop :=
  r.connection.cancelled.isSome = r.point.isArmed r.connection.task

/-- The connect and the version query of a session are over. -/
def IsReady (r : Course) (session : Nat) : Prop :=
  session < r.connection.sessions
    ∧ ¬ (r.point = .waiting ∧ r.connection.task = .querying session)

/-! ## The token -/

lemma armed_pass (crashing : String → Bool) {p : Point} (h : Armed ⟨c, p⟩) :
    (c.pass crashing p).1.Armed := by
  cases p with
  | arm | disarm => rfl
  | refresh =>
      rw [Connection.pass, Connection.refresh_eq]
      exact h
  | announce =>
      rw [Connection.pass_announce]
      exact h
  | mourn =>
      rw [Connection.pass_mourn]
      split_ifs <;> exact h
  | choose reusable =>
      cases reusable with
      | none => exact h
      | some session =>
          rw [Connection.pass]
          split_ifs <;> exact h
  | leave reusable => cases reusable <;> exact h
  | loop | connect | reuse | attempt | ask | establish | judge =>
      simp only [Connection.pass]
      split_ifs <;> exact h
  | _ => exact h

lemma armed_of_wakes {move : Move} (h : Armed ⟨c, .waiting⟩) (hwakes : c.Wakes move turn) :
    turn.1.Armed := by
  have htoken : c.cancelled.isSome = c.task.isArmed := h
  cases hwakes with
  | stopWaiting htask _ | stopReading htask _ =>
      rcases htask with htask | htask <;> rw [htask] at htoken <;> exact htoken
  | begin htask | stopQuerying htask _ | stopRejecting htask _ | stopBackingOff htask _
  | stopOpening htask _ | connected htask _ | refused htask _ | answered htask _
  | unanswered htask _ | opened htask _ | unopened htask _ | received htask _ | finished htask _
  | broken htask _ | rejected htask _ | released htask | discarded htask | closed htask
  | retried htask _ | backedOff htask _ | paused htask _ =>
      rw [htask] at htoken
      exact htoken

lemma Armed.step (h : r.Armed) (hfresh : r.Fresh) (hstep : r.step x = some turn) :
    turn.1.Armed := by
  cases x with
  | pass crashing =>
      obtain rfl := Option.some.inj hstep
      exact armed_pass crashing h
  | wake move =>
      obtain ⟨c, p⟩ := r
      cases p <;> try cases hstep
      exact armed_of_wakes h (Connection.wake_spec hstep)
  | strike s =>
      obtain rfl := Option.some.inj hstep
      cases s with
      | launch =>
          split_ifs with hstarted
          · exact h
          · obtain ⟨hpoint, htask⟩ := hfresh.mp (Bool.eq_false_iff.mpr hstarted)
            rw [Armed, hpoint, htask] at h
            rw [Armed, hpoint]
            exact h
      | interrupt =>
          rw [Armed, ← h]
          exact Option.isSome_map
      | _ => exact h

/-- While a token is laid out no session is out of reach. -/
lemma Armed.spare_eq_none (h : r.Armed) (htoken : r.connection.cancelled.isSome = true) :
    r.spare? = none := by
  obtain ⟨c, p⟩ := r
  have harmed : p.isArmed c.task = true := h.symm.trans htoken
  cases p with
  | waiting =>
      cases htask : c.task <;> simp_all [Point.isArmed, Task.isArmed, spare?, Point.spare?,
        Task.spare?]
  | _ => first | rfl | cases harmed

/-! ## Sessions that are ready -/

lemma ready_pass (crashing : String → Bool) {p : Point} (h : IsReady ⟨c, p⟩ session) :
    (c.pass crashing p).1.IsReady session := by
  obtain ⟨hknown, hready⟩ := h
  cases p with
  | waiting | crashed => exact ⟨hknown, hready⟩
  | refresh =>
      rw [Connection.pass, Connection.refresh_eq]
      exact ⟨hknown, by simp⟩
  | announce =>
      rw [Connection.pass_announce]
      exact ⟨hknown, by simp⟩
  | mourn =>
      rw [Connection.pass_mourn]
      split_ifs <;> exact ⟨hknown, by simp⟩
  | choose reusable =>
      cases reusable with
      | none => exact ⟨hknown, by simp [Connection.pass]⟩
      | some session =>
          rw [Connection.pass]
          split_ifs <;> exact ⟨hknown, by simp⟩
  | leave reusable => cases reusable <;> exact ⟨hknown, by simp [Connection.pass]⟩
  | loop | connect | reuse | attempt | ask | establish | judge =>
      simp only [Connection.pass]
      split_ifs <;> exact ⟨hknown, by simp⟩
  | _ => exact ⟨hknown, by simp [Connection.pass]⟩

/-- Sessions are numbered anew, so one that is ready stays so. -/
lemma IsReady.step (h : r.IsReady session) (hstep : r.step x = some turn) :
    turn.1.IsReady session := by
  obtain ⟨c, p⟩ := r
  cases x with
  | pass crashing =>
      obtain rfl := Option.some.inj hstep
      exact ready_pass crashing h
  | wake move =>
      cases p <;> try cases hstep
      obtain ⟨hknown, hready⟩ := h
      have hready : c.task ≠ .querying session := fun htask => hready ⟨rfl, htask⟩
      cases Connection.wake_spec hstep with
      | connected htask _ =>
          refine ⟨Nat.lt_succ_of_lt hknown, ?_⟩
          rintro ⟨-, hsame⟩
          exact Nat.ne_of_lt hknown (Task.querying.inj hsame).symm
      | _ => exact ⟨hknown, by simp [Connection.take, hready]⟩
  | strike s =>
      obtain rfl := Option.some.inj hstep
      cases s with
      | launch =>
          split_ifs
          · exact h
          · exact ⟨h.1, by simp⟩
      | _ => exact h

/-! ## Sessions on which no stream will be opened -/

/-- No stream will be opened on a session any more: it is not out of reach, and if it is in hand
while a token is laid out it is cancelled. -/
structure Barred (session : Nat) (r : Course) : Prop where
  ready : r.IsReady session
  reached : r.spare? ≠ some session
  cancelled : r.session? = some session → r.connection.cancelled ≠ some false

/-- A token that is laid out for a session that is barred has been cancelled. -/
lemma Barred.cancelled_eq (h : r.Barred session) (harmed : r.Armed)
    (htoken : r.point.isArmed r.connection.task = true) (hsession : r.session? = some session) :
    r.connection.cancelled = some true := by
  have hfalse := h.cancelled hsession
  have hsome : r.connection.cancelled.isSome = true := harmed.trans htoken
  cases hcancelled : r.connection.cancelled with
  | none => simp [hcancelled] at hsome
  | some cancelled => cases cancelled <;> simp_all

lemma barred_pass (crashing : String → Bool) {p : Point} (harmed : Armed ⟨c, p⟩)
    (h : Barred session ⟨c, p⟩) : (c.pass crashing p).1.Barred session := by
  have hready := ready_pass crashing h.ready
  have ⟨_, hreached, hcancelled⟩ := h
  have hout : none ≠ some session := (Option.some_ne_none session).symm
  cases p with
  | waiting | crashed => exact h
  | prepare | refresh => exact ⟨hready, hout, (absurd · hout)⟩
  | guard | read | unguard => exact ⟨hready, hout, hcancelled⟩
  | report => exact ⟨hready, hreached, hcancelled⟩
  | connect | attempt =>
      rw [Connection.pass] at hready ⊢
      split_ifs at hready ⊢ <;> exact ⟨hready, hout, (absurd · hout)⟩
  | ask | establish =>
      rw [Connection.pass] at hready ⊢
      split_ifs at hready ⊢ <;> exact ⟨hready, hout, hcancelled⟩
  | loop =>
      rw [Connection.pass] at hready ⊢
      split_ifs at hready ⊢
      · exact ⟨hready, hout, hcancelled⟩
      · exact ⟨hready, hreached, hcancelled⟩
  | choose reusable =>
      cases reusable with
      | none => exact ⟨hready, hout, (absurd · hout)⟩
      | some kept =>
          rw [Connection.pass] at hready ⊢
          split_ifs at hready ⊢
          · exact ⟨hready, hreached, hcancelled⟩
          · exact ⟨hready, hout, (absurd · hout)⟩
  | leave reusable => cases reusable <;> exact ⟨hready, hout, (absurd · hout)⟩
  | reuse =>
      rw [Connection.pass] at hready ⊢
      split_ifs at hready ⊢
      · exact ⟨hready, hreached, hcancelled⟩
      · exact ⟨hready, hout, hcancelled⟩
  | arm =>
      -- The new token is for the session that was out of reach, which is another one.
      exact ⟨hready, hout, fun hsession => absurd hsession hreached⟩
  | announce =>
      rw [Connection.pass_announce] at hready ⊢
      exact ⟨hready, hout, hcancelled⟩
  | disarm kept e =>
      refine ⟨hready, fun hspare => ?_, fun _ => (Option.some_ne_none false).symm⟩
      -- The token goes away, but it is remembered that it was cancelled.
      cases hremembered : c.cancelled == some true with
      | true => simp [Connection.pass, spare?, hremembered, Point.spare?] at hspare
      | false =>
          have hkept : some kept = some session := by
            simpa [Connection.pass, spare?, hremembered, Point.spare?] using hspare
          have htrue : c.cancelled = some true := h.cancelled_eq harmed rfl hkept
          simp [htrue] at hremembered
  | judge kept e cancelled =>
      simp only [Connection.pass] at hready ⊢
      split_ifs at hready ⊢ with hkeep
      · cases cancelled with
        | true => simp at hkeep
        | false => exact ⟨hready, hreached, hcancelled⟩
      · exact ⟨hready, hout, (absurd · hout)⟩
  | mourn =>
      rw [Connection.pass_mourn] at hready ⊢
      split_ifs at hready ⊢ <;> exact ⟨hready, hreached, hcancelled⟩

lemma barred_of_wakes {move : Move} (h : Barred session ⟨c, .waiting⟩)
    (hready : turn.1.IsReady session) (hwakes : c.Wakes move turn) : turn.1.Barred session := by
  have hreached : c.task.spare? ≠ some session := h.reached
  have hcancelled : c.task.session? = some session → c.cancelled ≠ some false := h.cancelled
  cases hwakes with
  | stopWaiting htask _ | stopReading htask _ =>
      rcases htask with htask | htask <;> rw [htask] at hreached hcancelled <;>
        exact ⟨hready, nofun, hcancelled⟩
  | stopOpening htask _ | opened htask _ | unopened htask _ | received htask _ | finished htask _
  | broken htask _ | paused htask _ =>
      rw [htask] at hcancelled
      exact ⟨hready, nofun, hcancelled⟩
  | stopBackingOff htask _ =>
      rw [htask] at hcancelled
      exact ⟨hready, nofun, hcancelled⟩
  | backedOff htask _ =>
      rw [htask] at hreached hcancelled
      exact ⟨hready, hreached, hcancelled⟩
  | connected =>
      -- The session that has just been handed out is a new one.
      refine ⟨hready, nofun, fun hsession => ?_⟩
      exact absurd (Option.some.inj hsession) (Nat.ne_of_gt h.ready.1)
  | answered htask _ =>
      rw [htask] at hcancelled
      refine ⟨hready, fun hspare => ?_, hcancelled⟩
      rw [← Option.some.inj hspare] at h
      exact h.ready.2 ⟨rfl, htask⟩
  | _ => exact ⟨hready, nofun, nofun⟩

/-- **What is barred stays barred**, whatever happens. -/
lemma Barred.step (h : r.Barred session) (harmed : r.Armed) (hfresh : r.Fresh)
    (hstep : r.step x = some turn) :
    turn.1.Barred session ∧ session ∉ opened turn.2 := by
  have hready := h.ready.step hstep
  constructor
  · cases x with
    | pass crashing =>
        obtain rfl := Option.some.inj hstep
        exact barred_pass crashing harmed h
    | wake move =>
        obtain ⟨c, p⟩ := r
        cases p <;> try cases hstep
        exact barred_of_wakes h hready (Connection.wake_spec hstep)
    | strike s =>
        obtain rfl := Option.some.inj hstep
        have ⟨_, hreached, hcancelled⟩ := h
        cases s with
        | launch =>
            split_ifs at hready ⊢ with hstarted
            · exact h
            · obtain ⟨hpoint, -⟩ := hfresh.mp (Bool.eq_false_iff.mpr hstarted)
              refine ⟨hready, ?_, ?_⟩
              · simp [spare?, hpoint, Point.spare?, Task.spare?]
              · simp [session?, hpoint, Point.session?, Task.session?]
        | interrupt =>
            refine ⟨hready, hreached, fun _ => ?_⟩
            cases hbefore : r.connection.cancelled <;> simp
        | _ => exact ⟨hready, hreached, hcancelled⟩
  · intro hopened
    obtain ⟨command, hmem⟩ := exists_of_mem_opened hopened
    obtain ⟨-, config, hconnect⟩ | ⟨hgo, asked, _, hpoint, hcall⟩ :=
      begins_of_step hstep hmem rfl
    · cases hconnect
    cases hcall
    have hcancelled : r.connection.cancelled = some true := by
      refine h.cancelled_eq harmed ?_ ?_
      · rw [hpoint]
        rfl
      · rw [session?, hpoint]
        rfl
    simp [Connection.isInterrupted, hcancelled] at hgo

/-! ## Runs -/

lemma armed_of_log (hfresh : r.Fresh) (h : r.Armed)
    (hlog : r.log happenings = some (last, sights)) : last.Armed := by
  have hlast := log_invariant (I := fun r => r.Fresh ∧ r.Armed)
    (fun _ _ _ hr hstep => ⟨hr.1.step hstep, hr.2.step hr.1 hstep⟩) ⟨hfresh, h⟩ hlog
  exact hlast.2

/-- A connection that nobody has started has laid out no token. -/
lemma armed_ofConfig (config : ConnectionConfig) (hasDispatcher : Bool)
    (updater : Option CredentialUpdater) (listeners : ListenerSet Observer) :
    (ofConnection { Connection.ofConfig config hasDispatcher updater with listeners }).Armed := rfl

/-- No stream is opened on a session that is barred, by induction on what happens. -/
lemma Barred.not_opened (h : r.Barred session) (harmed : r.Armed) (hfresh : r.Fresh)
    (hlog : r.log happenings = some (last, sights)) :
    session ∉ opened (sights.flatMap (·.deeds)) := by
  refine (log_induction (I := fun _ r sights => r.Fresh ∧ r.Armed ∧ r.Barred session
    ∧ session ∉ opened (sights.flatMap (·.deeds))) ?_ happenings [] rfl
    ⟨hfresh, harmed, h, by simp [opened]⟩ hlog).2.2.2
  intro _ r sights x turn _ ⟨hfresh, harmed, hbarred, hnone⟩ hstep
  obtain ⟨hafter, hnew⟩ := hbarred.step harmed hfresh hstep
  refine ⟨hfresh.step hstep, harmed.step hfresh hstep, hafter, ?_⟩
  simp only [opened, List.flatMap_append, List.flatMap_cons, List.flatMap_nil, List.append_nil,
    List.filterMap_append, List.mem_append, not_or]
  exact ⟨hnone, hnew⟩

/-- A reconnect bars every session that is ready, but for one that is out of reach. -/
lemma barred_interrupt (hready : r.IsReady session) (hreached : r.spare? ≠ some session)
    {next : Course} {deeds : List Deed} (hstep : r.step (.strike .interrupt) = some (next, deeds)) :
    next.Barred session := by
  have hafter := hready.step hstep
  cases hstep
  refine ⟨hafter, hreached, fun _ => ?_⟩
  cases r.connection.cancelled <;> simp

lemma reconnects_of_step (hstep : r.step x = some turn) :
    turn.1.connection.reconnects = r.connection.reconnects + [x].countP (·.isCount) := by
  cases x with
  | pass crashing =>
      obtain rfl := Option.some.inj hstep
      exact (pass_frame crashing r.connection r.point).2.2.2
  | wake move =>
      obtain ⟨c, p⟩ := r
      cases p <;> try cases hstep
      cases Connection.wake_spec hstep <;> rfl
  | strike s =>
      obtain rfl := Option.some.inj hstep
      cases s with
      | launch => split_ifs <;> rfl
      | _ => rfl

/-- Each reconnect is counted once, and nothing else is. -/
lemma reconnects_of_log (hlog : r.log happenings = some (last, sights)) :
    last.connection.reconnects = r.connection.reconnects + happenings.countP (·.isCount) := by
  refine log_induction (I := fun past s _ =>
    s.connection.reconnects = r.connection.reconnects + past.countP (·.isCount)) ?_ happenings []
    rfl rfl hlog
  intro past s _ x turn _ hcount hstep
  rw [reconnects_of_step hstep, hcount, List.countP_append, Nat.add_assoc]

/-- **A reconnect replaces the session.**  It is counted, stops the watchdog and cancels, with other
things happening in between, and it takes effect when it cancels:

* From then on no stream is opened on a session whose connect and version query were over, but for
  the one session that the task held out of reach.
* None is out of reach while a token is laid out: while a stream is asked for, opened, read or given
  up.
* Every reconnect is counted once. -/
theorem spare_of_opened_after_reconnect {config : ConnectionConfig} {hasDispatcher : Bool}
    {updater : Option CredentialUpdater} {listeners : ListenerSet Observer}
    {earlier later : List Happening} {past more : List Sight}
    (hearlier : (ofConnection { Connection.ofConfig config hasDispatcher updater with
      listeners }).log earlier = some (r, past))
    (hlater : r.log (.strike .interrupt :: later) = some (last, more)) :
    (∀ session ∈ opened (more.flatMap (·.deeds)), r.IsReady session → r.spare? = some session)
      ∧ (r.connection.cancelled.isSome = true → r.spare? = none)
      ∧ last.connection.reconnects
        = (earlier ++ .strike .interrupt :: later).countP (·.isCount) := by
  have hstart := fresh_ofConfig config hasDispatcher updater listeners
  have hfresh : r.Fresh := fresh_of_log hstart hearlier
  have harmed : r.Armed :=
    armed_of_log hstart (armed_ofConfig config hasDispatcher updater listeners) hearlier
  refine ⟨?_, harmed.spare_eq_none, ?_⟩
  · intro session hopened hready
    by_contra hreached
    obtain ⟨⟨next, deeds⟩, after, hstep, hafter, hresult⟩ := exists_of_log_cons hlater
    cases hresult
    have hbarred : next.Barred session := barred_interrupt hready hreached hstep
    have hnone := hbarred.not_opened (harmed.step hfresh hstep) (hfresh.step hstep) hafter
    cases hstep
    exact hnone hopened
  · exact reconnects_of_log (isRun.append_eq_some hearlier hlater) |>.trans (Nat.zero_add _)

/-- A reconnect while the stream is read: the next stream is opened on another session. -/
theorem spare_of_opened_after_reconnect_in_stream :
    let config : ConnectionConfig := .ofTarget "main" "review.example.com" "jenkins"
    let c : Connection := { Connection.ofConfig config true none with listeners := .empty }
    let pass : Happening := .pass fun _ => false
    let earlier : List Happening :=
      [.strike .launch, .wake .run, pass, pass, pass, pass, pass, pass, .wake .connected,
        .wake (.answered "gerrit version 3.4"), pass, pass, pass, .wake .opened, pass, pass, pass,
        .strike .count]
    let later : List Happening :=
      [.strike .unwatch, .wake .run, pass, pass, pass, .wake .released, pass, pass, pass, pass,
        pass, pass, pass, pass, .wake .connected, .wake (.answered "gerrit version 3.4"), pass,
        pass, pass]
    ∃ r past last more, (ofConnection c).log earlier = some (r, past)
      ∧ r.log (.strike .interrupt :: later) = some (last, more) ∧ r.IsReady 0 ∧ r.spare? = none
      ∧ last.connection.reconnects = 1 ∧ opened (past.flatMap (·.deeds)) = [0]
      ∧ opened (more.flatMap (·.deeds)) = [1] := by
  intro config c pass earlier later
  obtain ⟨r, past, last, more, hearlier, hlater, hready, htoken, hpast, hmore⟩ :
      ∃ r past last more, (ofConnection c).log earlier = some (r, past)
        ∧ r.log (.strike .interrupt :: later) = some (last, more) ∧ r.IsReady 0
        ∧ r.connection.cancelled.isSome = true ∧ opened (past.flatMap (·.deeds)) = [0]
        ∧ opened (more.flatMap (·.deeds)) = [1] :=
    ⟨_, _, _, _, rfl, rfl, ⟨Nat.zero_lt_one, nofun⟩, rfl, rfl, rfl⟩
  obtain ⟨-, hspare, hcount⟩ := spare_of_opened_after_reconnect hearlier hlater
  exact ⟨r, past, last, more, hearlier, hlater, hready, hspare htoken, hcount, hpast, hmore⟩

/-- **A session that is kept survives a reconnect.**  The stream ends before anything has arrived,
the reconnect comes in the pause after it, and the next stream is opened on the same session. -/
theorem opened_again_after_reconnect_in_pause :
    let config : ConnectionConfig := .ofTarget "main" "review.example.com" "jenkins"
    let c : Connection := .ofConfig config true none
    ∃ paused before last after,
      c.run [.start, .run, .connected, .answered "gerrit version 3.4", .opened, .finished]
        = some (paused, before)
      ∧ paused.run [.reconnect, .slept] = some (last, after)
      ∧ last.reconnects = 1 ∧ opened before = [0] ∧ opened after = [0]
      ∧ released (before ++ after) = [] := by
  intro config c
  exact ⟨_, _, _, _, rfl, rfl, rfl, rfl, rfl, rfl⟩

end Course

end ReviewStream
