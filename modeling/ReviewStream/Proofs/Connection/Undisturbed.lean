import Mathlib.Tactic.Set
import ReviewStream.Proofs.Connection.Points

/-!
# Moves that nobody disturbs

A move of a connection is what the task does from one wait to the next, or what a caller does, when
nothing comes in between.  So whatever holds of all runs that are cut at every access to what is
shared holds of all runs by moves.

* `Course.Leads`: a course comes to a wait, and has done certain things by then.
* **`Course.exists_log_of_run`**: every run by moves is a run by accesses.
-/

namespace ReviewStream

open Connection (Move)

namespace Course

variable {r next : Course} {c : Connection} {turn : Turn} {deeds : List Deed} {session : Nat}

/-! ## Coming to a wait -/

/-- A course comes to a wait, and has done certain things by then. -/
def Leads (r : Course) (turn : Turn) : Prop :=
  ∃ happenings sights, r.log happenings = some (⟨turn.1, .waiting⟩, sights)
    ∧ sights.flatMap (·.deeds) = turn.2

lemma leads_refl (c : Connection) : Leads ⟨c, .waiting⟩ (c, []) := ⟨[], [], rfl, rfl⟩

lemma Leads.cons {x : Happening} (h : next.Leads turn) (hstep : r.step x = some (next, deeds)) :
    r.Leads (turn.after deeds) := by
  obtain ⟨rest, sights, hrest, hdeeds⟩ := h
  refine ⟨x :: rest, ⟨next.connection.state, deeds⟩ :: sights, log_cons hstep hrest, ?_⟩
  rw [List.flatMap_cons, hdeeds]
  rfl

/-- A happening in which nothing is done. -/
lemma Leads.silent {x : Happening} (h : next.Leads turn) (hstep : r.step x = some (next, [])) :
    r.Leads turn := h.cons hstep

/-- A happening after which the task waits. -/
lemma leads_of_step {x : Happening} (hstep : r.step x = some (⟨c, .waiting⟩, deeds)) :
    r.Leads (c, deeds) := by
  have h := (leads_refl c).cons hstep
  rwa [Turn.after, List.append_nil] at h

/-- Nobody crashes. -/
abbrev calm : Happening := .pass fun _ => false

/-! ## Stretches between two waits -/

lemma leads_leave (reusable : Option Nat) : Leads ⟨c, .leave reusable⟩ (c.finish reusable) := by
  cases reusable with
  | none => exact leads_of_step (x := calm) rfl
  | some session => exact leads_of_step (x := calm) rfl

lemma leads_connect : Leads ⟨c, .connect⟩ c.connect := by
  rw [Connection.connect]
  split_ifs with hstop
  · have hstep : step ⟨c, .connect⟩ calm = some (⟨c, .leave none⟩, []) := by
      simp [step, Connection.pass, hstop]
    exact (leads_leave none).silent hstep
  · set trying : Connection := { c with state := c.state.enter .connecting } with htrying
    have hgo : trying.refresh.1.shutdown = false := by
      rw [Connection.refresh_eq]
      exact Bool.eq_false_iff.mpr hstop
    have hstep : step ⟨c, .connect⟩ calm = some (⟨c, .prepare⟩, []) := by
      simp [step, Connection.pass, hstop]
    have hattempt : step ⟨trying.refresh.1, .attempt⟩ calm
        = some (⟨{ trying.refresh.1 with task := .connecting }, .waiting⟩,
          [.call (.connect trying.refresh.1.config)]) := by
      simp [step, Connection.pass, hgo]
    have hbegun : Leads ⟨trying, .refresh⟩ _ := (leads_of_step hattempt).cons (x := calm) rfl
    exact (hbegun.silent (x := calm) rfl).silent hstep

lemma leads_arm (hgo : c.shutdown = false) : Leads ⟨c, .arm session⟩ (c.openStream session) := by
  set guarded : Connection :=
    { c with cancelled := some false, watched := c.config.watchdogTimeout?.isSome } with hguarded
  have hask : step ⟨guarded, .ask session⟩ calm
      = some (⟨{ guarded with task := .opening session }, .waiting⟩,
        [.call (.openStream session streamCommand)]) := by
    simp [step, Connection.pass, Connection.isInterrupted, hguarded, hgo]
  have hguard : Leads ⟨{ c with cancelled := some false }, .guard session⟩ _ :=
    (leads_of_step hask).cons (x := calm) rfl
  exact hguard.silent (x := calm) rfl

lemma leads_loop (reusable : Option Nat) : Leads ⟨c, .loop reusable⟩ (c.proceed reusable) := by
  cases hstop : c.shutdown with
  | true =>
      have hstep : step ⟨c, .loop reusable⟩ calm = some (⟨c, .leave reusable⟩, []) := by
        simp [step, Connection.pass, hstop]
      have hproceed : c.proceed reusable = c.finish reusable := by
        cases reusable <;> simp [Connection.proceed, hstop]
      rw [hproceed]
      exact (leads_leave reusable).silent hstep
  | false =>
      have hstep : step ⟨c, .loop reusable⟩ calm = some (⟨c, .choose reusable⟩, []) := by
        simp [step, Connection.pass, hstop]
      refine Leads.silent ?_ hstep
      cases reusable with
      | none =>
          have hproceed : c.proceed none = c.connect := by simp [Connection.proceed, hstop]
          rw [hproceed]
          exact leads_connect.silent (x := calm) rfl
      | some session =>
          rw [Connection.proceed, if_neg (Bool.eq_false_iff.mp hstop)]
          split_ifs with hconnected hchange
          · set reusing : Connection := { c with state := .connecting } with hreusing
            have hchoose : step ⟨c, .choose (some session)⟩ calm
                = some (⟨c, .reuse session⟩, []) := by
              simp [step, Connection.pass, hconnected]
            have hreuse : step ⟨c, .reuse session⟩ calm
                = some (⟨reusing, .arm session⟩, []) := by
              simp [step, Connection.pass, hchange, hreusing]
            have harm : Leads ⟨reusing, .arm session⟩ (reusing.openStream session) :=
              leads_arm hstop
            exact (harm.silent hreuse).silent hchoose
          · have hchoose : step ⟨c, .choose (some session)⟩ calm
                = some (⟨c, .reuse session⟩, []) := by
              simp [step, Connection.pass, hconnected]
            have hreuse : step ⟨c, .reuse session⟩ calm
                = some (⟨c, .leave (some session)⟩, []) := by
              simp [step, Connection.pass, hchange]
            exact ((leads_leave (some session)).silent hreuse).silent hchoose
          · refine leads_of_step (x := calm) ?_
            simp [step, Connection.pass, hconnected]

lemma leads_report (reusable : Option Nat) (backOff : Bool) :
    Leads ⟨c, .report reusable backOff⟩ (c.afterStream reusable backOff) := by
  set down : Connection := { c with state := c.state.enter .disconnected, established := false }
    with hdown
  set told : List Deed := if c.established then c.tellAll .down else [] with htold
  set mourning : Connection := { c with state := c.state.enter .disconnected } with hmourning
  have hreport : step ⟨c, .report reusable backOff⟩ calm
      = some (⟨mourning, .mourn reusable backOff⟩, []) := rfl
  refine Leads.silent ?_ hreport
  have hmourn : step ⟨mourning, .mourn reusable backOff⟩ calm
      = some (if backOff || !c.established then
          (⟨{ down with task := .backingOff reusable }, .waiting⟩, told)
        else (⟨down, .loop reusable⟩, told)) := by
    rw [step, Connection.pass_mourn, htold]
    split_ifs <;> rfl
  have hafter : c.afterStream reusable backOff
      = if backOff || !c.established then ({ down with task := .backingOff reusable }, told)
        else (down.proceed reusable).after told := rfl
  rw [hafter]
  by_cases hpause : (backOff || !c.established) = true
  · rw [if_pos hpause] at hmourn ⊢
    exact leads_of_step hmourn
  · rw [if_neg hpause] at hmourn ⊢
    exact (leads_loop reusable).cons hmourn

lemma leads_unguard (e : StreamEnd) : Leads ⟨c, .unguard session e⟩ (c.endStream session e) := by
  set quiet : Connection := { c with watched := false, cancelled := none } with hquiet
  -- Both look at the same thing when they decide whether the session is kept.
  obtain ⟨keeps, hjudge, hend⟩ : ∃ keeps : Bool,
      step ⟨quiet, .judge session e (c.cancelled == some true)⟩ calm
        = some (if keeps then (⟨quiet, .report (some session) (e == .finished 0)⟩, [])
          else (⟨{ quiet with task := .releasing session (e == .finished 0) }, .waiting⟩,
            [.call (.disconnect session)]))
      ∧ c.endStream session e
        = (if keeps then quiet.afterStream (some session) (e == .finished 0)
          else ({ quiet with task := .releasing session (e == .finished 0) },
            [.call (.disconnect session)])).after c.stopWatchdog.2 := ⟨_, rfl, rfl⟩
  have hunguard : step ⟨c, .unguard session e⟩ calm
      = some (⟨c.stopWatchdog.1, .disarm session e⟩, c.stopWatchdog.2) := rfl
  have hdisarm : step ⟨c.stopWatchdog.1, .disarm session e⟩ calm
      = some (⟨quiet, .judge session e (c.cancelled == some true)⟩, []) := rfl
  rw [hend]
  refine Leads.cons (Leads.silent ?_ hdisarm) hunguard
  by_cases hkeep : keeps = true
  · rw [if_pos hkeep] at hjudge ⊢
    exact (leads_report _ _).silent hjudge
  · rw [if_neg hkeep] at hjudge ⊢
    exact leads_of_step hjudge

lemma leads_establish : Leads ⟨c, .establish session⟩ (c.beginStream session) := by
  rw [Connection.beginStream]
  split_ifs with hchange
  · set up : Connection := { c with state := .connected } with hup
    have hstep : step ⟨c, .establish session⟩ calm = some (⟨up, .announce session⟩, []) := by
      simp [step, Connection.pass, hchange, hup]
    have hannounce : step ⟨up, .announce session⟩ calm
        = some (⟨{ up with established := true }, .read session⟩, up.tellAll .established) := by
      rw [step, Connection.pass_announce]
    have hread := leads_of_step (r := ⟨{ up with established := true }, .read session⟩)
      (x := calm) rfl
    have htold := (hread.cons hannounce).silent hstep
    rwa [Turn.after, List.append_nil] at htold
  · have hstep : step ⟨c, .establish session⟩ calm
        = some (⟨c, .unguard session .interrupted⟩, []) := by
      simp [step, Connection.pass, hchange]
    exact (leads_unguard .interrupted).silent hstep

/-! ## Any run -/

lemma Leads.trans {later : Turn} (hfirst : r.Leads turn) (hlater : Leads ⟨turn.1, .waiting⟩ later) :
    r.Leads (later.after turn.2) := by
  obtain ⟨happenings, sights, hlog, hdeeds⟩ := hfirst
  obtain ⟨rest, more, hrest, hmore⟩ := hlater
  refine ⟨happenings ++ rest, sights ++ more, isRun.append_eq_some hlog hrest, ?_⟩
  rw [List.flatMap_append, hdeeds, hmore]
  rfl

/-- A shutdown is four accesses. -/
lemma leads_requestShutdown (c : Connection) : Leads ⟨c, .waiting⟩ c.requestShutdown :=
  ⟨[.strike .condemn, .strike .cancel, .strike .unwatch, .strike .detach], _, rfl,
    by simp [Connection.requestShutdown, Connection.stopWatchdog]⟩

/-- A reconnect is three accesses. -/
lemma leads_reconnect (c : Connection) : Leads ⟨c, .waiting⟩ c.reconnect :=
  ⟨[.strike .count, .strike .unwatch, .strike .interrupt], _, rfl,
    by simp [Connection.reconnect, Connection.stopWatchdog]⟩

lemma leads_start {started : Connection} (h : c.start? = .ok started) :
    Leads ⟨c, .waiting⟩ (started, []) := by
  simp only [Connection.start?] at h
  split_ifs at h with hstop hstarted
  obtain rfl := Except.ok.inj h
  refine leads_of_step (x := .strike .launch) ?_
  simp [step, Connection.struck, hstarted]

/-- The task goes on after a wait, and nothing is done yet. -/
lemma Leads.wake (move : Move) (h : next.Leads turn) (hwake : c.wake move = some (next, [])) :
    Leads ⟨c, .waiting⟩ turn :=
  h.silent (x := .wake move) hwake

lemma leads_of_wake (move : Move) {last : Connection}
    (hwake : c.wake move = some (⟨last, .waiting⟩, deeds)) : Leads ⟨c, .waiting⟩ (last, deeds) :=
  leads_of_step (x := .wake move) hwake

/-- **Every move is a run by accesses.** -/
theorem leads_of_move {move : Move} (h : c.Step move turn) : Leads ⟨c, .waiting⟩ turn := by
  cases h with
  | start hstart => exact leads_start hstart
  | startRefused _ => exact leads_refl c
  | shutdown => exact leads_requestShutdown c
  | reconnect => exact leads_reconnect c
  | alarm _ => exact leads_reconnect c
  | lose _ => exact leads_of_step (x := .strike (.lose _)) rfl
  | begin htask => exact (leads_loop none).wake .run (by simp [Connection.wake, htask])
  | stopConnecting htask hstop | stopQuerying htask hstop | stopRejecting htask hstop
  | stopRetrying htask hstop =>
      refine (leads_leave none).wake .run ?_
      simp [Connection.wake, Connection.giveUp, Connection.mustStop, htask, hstop]
  | stopBackingOff htask hstop =>
      refine (leads_leave _).wake .run ?_
      simp [Connection.wake, Connection.giveUp, Connection.mustStop, htask, hstop]
  | stopOpening htask hstop | stopReading htask hstop | stopPausing htask hstop =>
      refine (leads_unguard .interrupted).wake .run ?_
      simp [Connection.wake, Connection.giveUp, Connection.mustStop, htask, hstop]
  | connected htask hgo =>
      refine leads_of_wake .connected ?_
      simp [Connection.wake, Connection.goOn, Connection.mustStop, htask, hgo]
  | @refused e htask hgo =>
      refine leads_of_wake (.refused e) ?_
      simp [Connection.wake, Connection.goOn, Connection.mustStop, htask, hgo]
  | @answered output session htask hgo =>
      refine Leads.wake (.answered output)
        (leads_arm (c := { c with version := some (versionOf output) }) hgo) ?_
      simp [Connection.wake, Connection.goOn, Connection.mustStop, htask, hgo]
  | @unanswered e session htask hgo =>
      refine leads_of_wake (.unanswered e) ?_
      simp [Connection.wake, Connection.goOn, Connection.mustStop, htask, hgo]
  | opened htask hgo =>
      refine leads_establish.wake .opened ?_
      simp [Connection.wake, Connection.goOn, Connection.mustStop, htask, hgo]
  | @unopened e session htask hgo =>
      refine (leads_unguard .failed).wake (.unopened e) ?_
      simp [Connection.wake, Connection.goOn, Connection.mustStop, htask, hgo]
  | @received octets stream htask hgo hsome hfits =>
      refine leads_of_wake (.received octets) ?_
      simp only [Connection.wake, Connection.goOn, Connection.mustStop, htask, hgo,
        List.isEmpty_eq_false_iff.mpr hsome, decide_eq_false (Nat.not_lt_of_le hfits),
        Bool.or_self, Bool.false_eq_true, if_false]
      rfl
  | finished htask hgo =>
      refine (leads_unguard _).wake .finished ?_
      simp [Connection.wake, Connection.goOn, Connection.mustStop, htask, hgo]
  | broken htask hgo =>
      refine (leads_unguard .failed).wake .broken ?_
      simp [Connection.wake, Connection.goOn, Connection.mustStop, htask, hgo]
  | rejected htask hgo =>
      refine leads_of_wake .released ?_
      simp [Connection.wake, Connection.goOn, Connection.mustStop, htask, hgo]
  | released htask =>
      refine (leads_report none _).wake .released ?_
      simp [Connection.wake, Connection.goOn, Connection.mustStop, htask]
  | discarded htask =>
      refine leads_connect.wake .released ?_
      simp [Connection.wake, Connection.goOn, Connection.mustStop, htask]
  | closed htask =>
      refine (leads_leave none).wake .released ?_
      simp [Connection.wake, Connection.goOn, Connection.mustStop, htask]
  | retried htask hgo =>
      refine leads_connect.wake .slept ?_
      simp [Connection.wake, Connection.goOn, Connection.mustStop, htask, hgo]
  | backedOff htask hgo =>
      refine (leads_loop _).wake .slept ?_
      simp [Connection.wake, Connection.goOn, Connection.mustStop, htask, hgo]
  | paused htask hgo =>
      refine leads_of_wake .slept ?_
      simp [Connection.wake, Connection.goOn, Connection.mustStop, htask, hgo]

/-- **Every run by moves is a run by accesses.**  The two end alike and do the same. -/
theorem exists_log_of_run {moves : List Move} {last : Connection}
    (h : c.run moves = some (last, deeds)) :
    ∃ happenings sights, (ofConnection c).log happenings = some (⟨last, .waiting⟩, sights)
      ∧ sights.flatMap (·.deeds) = deeds := by
  induction moves generalizing c deeds with
  | nil =>
      cases h
      exact leads_refl _
  | cons move moves ih =>
      obtain ⟨turn, hturn, hafter⟩ := Option.bind_eq_some_iff.mp h
      obtain ⟨rest, hrest, hresult⟩ := Option.bind_eq_some_iff.mp hafter
      cases hresult
      exact (leads_of_move (Connection.step_spec hturn)).trans (ih hrest)

end Course

end ReviewStream
