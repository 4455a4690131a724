import ReviewStream.Proofs.Connection.Steps
import ReviewStream.Proofs.Listener.Containment
import ReviewStream.Proofs.Runs

/-!
# The task, point by point

Between two waits the task looks at what it shares with its callers: the state, the requests to
stop, the watchdog, the observers.  Callers do not wait for it to come to its next wait, so here a
stretch of the task is cut at each of these looks, and in between anybody may do anything.  The same
holds of the callers: a shutdown is not one action but several.

* `Point`: what the task is about to do.
* `Connection.pass`: what it does there, up to its next look at what is shared.
* `Connection.wake`: how it goes on after a wait, and `Connection.wake_spec`: nothing else happens.
* `Strike`: what callers, the watchdog and the server do, one access at a time and in any order.
* `Course.log`: a run, with the state that can be seen after each access.
* `Course.log_induction`, `Course.log_invariant`: what every happening preserves holds after every
  run.
* **`Course.exists_log_of_run`**: moves that are not disturbed are runs of this kind.
-/

namespace ReviewStream

open Connection (Move)

/-! ## Points -/

/-- What the task is about to do.  What the task waits for is kept by the connection. -/
inductive Point where
  | waiting
  /-- To look for a shutdown, at the head of the loop. -/
  | loop (reusable : Option Nat)
  /-- To look whether the session that was kept is still connected. -/
  | choose (reusable : Option Nat)
  /-- To be connecting, on a session that was kept. -/
  | reuse (session : Nat)
  /-- To come to the end. -/
  | leave (reusable : Option Nat)
  /-- To look for a shutdown before a connect. -/
  | connect
  /-- To be connecting. -/
  | prepare
  | refresh
  /-- To look for a shutdown once more and to begin the connect. -/
  | attempt
  /-- To make it possible to cancel the session. -/
  | arm (session : Nat)
  /-- To start the watchdog. -/
  | guard (session : Nat)
  /-- To look whether the session is cancelled and to ask for the stream. -/
  | ask (session : Nat)
  /-- To be connected. -/
  | establish (session : Nat)
  /-- To tell the observers about it. -/
  | announce (session : Nat)
  | read (session : Nat)
  /-- To stop the watchdog. -/
  | unguard (session : Nat) (e : StreamEnd)
  /-- To make it impossible to cancel the session. -/
  | disarm (session : Nat) (e : StreamEnd)
  /-- To keep the session or to disconnect it. -/
  | judge (session : Nat) (e : StreamEnd) (cancelled : Bool)
  /-- To be disconnected. -/
  | report (reusable : Option Nat) (backOff : Bool)
  /-- To tell the observers about it. -/
  | mourn (reusable : Option Nat) (backOff : Bool)
  /-- The task has crashed. -/
  | crashed

/-- A connection, and where its task is. -/
structure Course where
  connection : Connection
  point : Point

namespace Connection

/-- Tells one observer after the other, whichever of them crash. -/
def notify (crashing : String → Bool) (c : Connection) (e : ConnectionEvent) : Attempt Deed :=
  .each (fun x => ⟨[.tell x.id e], crashing x.id⟩) c.listeners.snapshot

lemma notify_eq (crashing : String → Bool) (c : Connection) (e : ConnectionEvent) :
    c.notify crashing e = ⟨c.tellAll e, false⟩ := by
  rw [notify, Attempt.each_eq, tellAll, List.map_eq_flatMap]

/-- What the task does at a point, up to the next one. -/
def pass (crashing : String → Bool) (c : Connection) : Point → Course × List Deed
  | .waiting => (⟨c, .waiting⟩, [])
  | .crashed => (⟨c, .crashed⟩, [])
  | .loop reusable => (⟨c, if c.shutdown then .leave reusable else .choose reusable⟩, [])
  | .choose none => (⟨c, .connect⟩, [])
  | .choose (some session) =>
    if c.isConnected session then (⟨c, .reuse session⟩, [])
    else (⟨{ c with task := .discarding session }, .waiting⟩, [.call (.disconnect session)])
  | .reuse session =>
    if c.state.mayChange then (⟨{ c with state := .connecting }, .arm session⟩, [])
    else (⟨c, .leave (some session)⟩, [])
  | .leave none => (⟨{ c with task := .ended }, .waiting⟩, [])
  | .leave (some session) =>
    (⟨{ c with task := .closing session }, .waiting⟩, [.call (.disconnect session)])
  | .connect => (⟨c, if c.shutdown then .leave none else .prepare⟩, [])
  | .prepare => (⟨{ c with state := c.state.enter .connecting }, .refresh⟩, [])
  | .refresh => (⟨c.refresh.1, .attempt⟩, c.refresh.2)
  | .attempt =>
    if c.shutdown then (⟨c, .leave none⟩, [])
    else (⟨{ c with task := .connecting }, .waiting⟩, [.call (.connect c.config)])
  | .arm session => (⟨{ c with cancelled := some false }, .guard session⟩, [])
  | .guard session =>
    let timeout := c.config.watchdogTimeout?
    (⟨{ c with watched := timeout.isSome }, .ask session⟩, (timeout.map Deed.watch).toList)
  | .ask session =>
    if c.isInterrupted then (⟨c, .unguard session .interrupted⟩, [])
    else (⟨{ c with task := .opening session }, .waiting⟩,
      [.call (.openStream session streamCommand)])
  | .establish session =>
    if c.state.mayChange then (⟨{ c with state := .connected }, .announce session⟩, [])
    else (⟨c, .unguard session .interrupted⟩, [])
  | .announce session =>
    let told := c.notify crashing .established
    (⟨{ c with established := true }, if told.crashed then .crashed else .read session⟩, told.made)
  | .read session =>
    let stream : Stream :=
      ⟨session, c.provider, .ofCapacity c.config.receiveBufferSize.toNat, 0⟩
    (⟨{ c with task := .reading stream }, .waiting⟩, [])
  | .unguard session e => (⟨c.stopWatchdog.1, .disarm session e⟩, c.stopWatchdog.2)
  | .disarm session e =>
    (⟨{ c with cancelled := none }, .judge session e (c.cancelled == some true)⟩, [])
  | .judge session e cancelled =>
    let byItself := match e with
      | .finished _ => true
      | _ => false
    let backOff := e == .finished 0
    if byItself && !(c.shutdown || cancelled) && c.isConnected session then
      (⟨c, .report (some session) backOff⟩, [])
    else (⟨{ c with task := .releasing session backOff }, .waiting⟩, [.call (.disconnect session)])
  | .report reusable backOff =>
    (⟨{ c with state := c.state.enter .disconnected }, .mourn reusable backOff⟩, [])
  | .mourn reusable backOff =>
    let told := if c.established then c.notify crashing .down else .done
    let pause := backOff || !c.established
    let c := { c with established := false }
    if told.crashed then (⟨c, .crashed⟩, told.made)
    else if pause then (⟨{ c with task := .backingOff reusable }, .waiting⟩, told.made)
    else (⟨c, .loop reusable⟩, told.made)

/-- Whoever crashes, the task goes on when it has told that a stream is established. -/
lemma pass_announce (crashing : String → Bool) (c : Connection) (session : Nat) :
    c.pass crashing (.announce session)
      = (⟨{ c with established := true }, .read session⟩, c.tellAll .established) := by
  simp only [pass, notify_eq, Bool.false_eq_true, if_false]

/-- Whoever crashes, the task pauses or goes on when it has told that a stream is down. -/
lemma pass_mourn (crashing : String → Bool) (c : Connection) (reusable : Option Nat)
    (backOff : Bool) :
    c.pass crashing (.mourn reusable backOff)
      = (if backOff || !c.established then
          ⟨{ c with established := false, task := .backingOff reusable }, .waiting⟩
        else ⟨{ c with established := false }, .loop reusable⟩,
        if c.established then c.tellAll .down else []) := by
  have hnotify : (if c.established then c.notify crashing .down else .done)
      = (⟨if c.established then c.tellAll .down else [], false⟩ : Attempt Deed) := by
    rw [notify_eq]
    split_ifs <;> rfl
  rw [pass, hnotify]
  cases backOff || !c.established <;> rfl

/-! ## Waits -/

/-- How the task goes on when it gives up what it waits for. -/
def giveUp (c : Connection) : Option Point :=
  match c.task with
  | .connecting | .querying _ | .rejecting _ | .retrying => some (.leave none)
  | .backingOff reusable => some (.leave reusable)
  | .opening session => some (.unguard session .interrupted)
  | .reading s | .pausing s => some (.unguard s.session .interrupted)
  | _ => none

/-- How the task goes on when that comes which it waits for. -/
def goOn (c : Connection) : Move → Option (Course × List Deed)
  | .connected =>
    match c.task with
    | .connecting =>
      some (⟨{ c with sessions := c.sessions + 1, task := .querying c.sessions }, .waiting⟩,
        [.call (.execute c.sessions versionCommand)])
    | _ => none
  | .refused _ =>
    match c.task with
    | .connecting => some (⟨{ c with task := .retrying }, .waiting⟩, [])
    | _ => none
  | .answered output =>
    match c.task with
    | .querying session =>
      some (⟨{ c with version := some (versionOf output) }, .arm session⟩, [])
    | _ => none
  | .unanswered _ =>
    match c.task with
    | .querying session =>
      some (⟨{ c with task := .rejecting session }, .waiting⟩, [.call (.disconnect session)])
    | _ => none
  | .opened =>
    match c.task with
    | .opening session => some (⟨c, .establish session⟩, [])
    | _ => none
  | .unopened _ =>
    match c.task with
    | .opening session => some (⟨c, .unguard session .failed⟩, [])
    | _ => none
  | .received octets =>
    match c.task with
    | .reading s =>
      if octets.isEmpty || s.buffer.room < octets.length then none
      else some (⟨(c.take s octets).1, .waiting⟩, (c.take s octets).2)
    | _ => none
  | .finished =>
    match c.task with
    | .reading s => some (⟨c, .unguard s.session (.finished s.received)⟩, [])
    | _ => none
  | .broken =>
    match c.task with
    | .reading s => some (⟨c, .unguard s.session .failed⟩, [])
    | _ => none
  | .released =>
    match c.task with
    | .rejecting _ => some (⟨{ c with task := .retrying }, .waiting⟩, [])
    | .releasing _ backOff => some (⟨c, .report none backOff⟩, [])
    | .discarding _ => some (⟨c, .connect⟩, [])
    | .closing _ => some (⟨c, .leave none⟩, [])
    | _ => none
  | .slept =>
    match c.task with
    | .retrying => some (⟨c, .connect⟩, [])
    | .backingOff reusable => some (⟨c, .loop reusable⟩, [])
    | .pausing s => some (⟨{ c with task := .reading s }, .waiting⟩, [])
    | _ => none
  | _ => none

/-- How the task goes on after a wait.  What it waits for is looked at only after it has been found
that it need not stop. -/
def wake (c : Connection) : Move → Option (Course × List Deed)
  | .run =>
    match c.task with
    | .spawned => some (⟨c, .loop none⟩, [])
    | _ => if c.mustStop then c.giveUp.map fun p => (⟨c, p⟩, []) else none
  | move => if c.mustStop then none else c.goOn move

/-- What the task can do after a wait, with the wait that it has left behind. -/
inductive Wakes (c : Connection) : Move → Course × List Deed → Prop
  | begin (htask : c.task = .spawned) : Wakes c .run (⟨c, .loop none⟩, [])
  | stopWaiting (htask : c.task = .connecting ∨ c.task = .retrying) (hstop : c.shutdown = true) :
      Wakes c .run (⟨c, .leave none⟩, [])
  | stopQuerying {session : Nat} (htask : c.task = .querying session) (hstop : c.shutdown = true) :
      Wakes c .run (⟨c, .leave none⟩, [])
  | stopRejecting {session : Nat} (htask : c.task = .rejecting session)
      (hstop : c.shutdown = true) : Wakes c .run (⟨c, .leave none⟩, [])
  | stopBackingOff {reusable : Option Nat} (htask : c.task = .backingOff reusable)
      (hstop : c.shutdown = true) : Wakes c .run (⟨c, .leave reusable⟩, [])
  | stopOpening {session : Nat} (htask : c.task = .opening session)
      (hstop : c.isInterrupted = true) : Wakes c .run (⟨c, .unguard session .interrupted⟩, [])
  | stopReading {stream : Stream} (htask : c.task = .reading stream ∨ c.task = .pausing stream)
      (hstop : c.isInterrupted = true) :
      Wakes c .run (⟨c, .unguard stream.session .interrupted⟩, [])
  | connected (htask : c.task = .connecting) (hgo : c.shutdown = false) :
      Wakes c .connected
        (⟨{ c with sessions := c.sessions + 1, task := .querying c.sessions }, .waiting⟩,
          [.call (.execute c.sessions versionCommand)])
  | refused {e : TransportError} (htask : c.task = .connecting) (hgo : c.shutdown = false) :
      Wakes c (.refused e) (⟨{ c with task := .retrying }, .waiting⟩, [])
  | answered {output : String} {session : Nat} (htask : c.task = .querying session)
      (hgo : c.shutdown = false) :
      Wakes c (.answered output) (⟨{ c with version := some (versionOf output) }, .arm session⟩, [])
  | unanswered {e : TransportError} {session : Nat} (htask : c.task = .querying session)
      (hgo : c.shutdown = false) :
      Wakes c (.unanswered e)
        (⟨{ c with task := .rejecting session }, .waiting⟩, [.call (.disconnect session)])
  | opened {session : Nat} (htask : c.task = .opening session) (hgo : c.isInterrupted = false) :
      Wakes c .opened (⟨c, .establish session⟩, [])
  | unopened {e : TransportError} {session : Nat} (htask : c.task = .opening session)
      (hgo : c.isInterrupted = false) : Wakes c (.unopened e) (⟨c, .unguard session .failed⟩, [])
  | received {octets : List Text.Octet} {stream : Stream} (htask : c.task = .reading stream)
      (hgo : c.isInterrupted = false) :
      Wakes c (.received octets) (⟨(c.take stream octets).1, .waiting⟩, (c.take stream octets).2)
  | finished {stream : Stream} (htask : c.task = .reading stream) (hgo : c.isInterrupted = false) :
      Wakes c .finished (⟨c, .unguard stream.session (.finished stream.received)⟩, [])
  | broken {stream : Stream} (htask : c.task = .reading stream) (hgo : c.isInterrupted = false) :
      Wakes c .broken (⟨c, .unguard stream.session .failed⟩, [])
  | rejected {session : Nat} (htask : c.task = .rejecting session) (hgo : c.shutdown = false) :
      Wakes c .released (⟨{ c with task := .retrying }, .waiting⟩, [])
  | released {session : Nat} {backOff : Bool} (htask : c.task = .releasing session backOff) :
      Wakes c .released (⟨c, .report none backOff⟩, [])
  | discarded {session : Nat} (htask : c.task = .discarding session) :
      Wakes c .released (⟨c, .connect⟩, [])
  | closed {session : Nat} (htask : c.task = .closing session) :
      Wakes c .released (⟨c, .leave none⟩, [])
  | retried (htask : c.task = .retrying) (hgo : c.shutdown = false) :
      Wakes c .slept (⟨c, .connect⟩, [])
  | backedOff {reusable : Option Nat} (htask : c.task = .backingOff reusable)
      (hgo : c.shutdown = false) : Wakes c .slept (⟨c, .loop reusable⟩, [])
  | paused {stream : Stream} (htask : c.task = .pausing stream) (hgo : c.isInterrupted = false) :
      Wakes c .slept (⟨{ c with task := .reading stream }, .waiting⟩, [])

variable {c : Connection} {move : Move} {turn : Course × List Deed}

lemma giveUp_spec (hstop : c.mustStop = true) {p : Point} (h : c.giveUp = some p) :
    c.Wakes .run (⟨c, p⟩, []) := by
  rw [mustStop] at hstop
  rw [giveUp] at h
  cases htask : c.task <;> rw [htask] at hstop h <;> cases h
  case connecting => exact .stopWaiting (.inl htask) hstop
  case retrying => exact .stopWaiting (.inr htask) hstop
  case querying => exact .stopQuerying htask hstop
  case rejecting => exact .stopRejecting htask hstop
  case backingOff => exact .stopBackingOff htask hstop
  case opening => exact .stopOpening htask hstop
  case reading => exact .stopReading (.inl htask) hstop
  case pausing => exact .stopReading (.inr htask) hstop

lemma goOn_spec (hgo : c.mustStop = false) (h : c.goOn move = some turn) :
    c.Wakes move turn := by
  rw [mustStop] at hgo
  cases move <;> simp only [goOn] at h <;> try cases h
  all_goals
    cases htask : c.task <;> simp only [htask] at hgo h <;> try cases h
  case connected.connecting => exact .connected htask hgo
  case refused.connecting => exact .refused htask hgo
  case answered.querying =>
    rw [← htask]
    exact .answered htask hgo
  case unanswered.querying => exact .unanswered htask hgo
  case opened.opening => exact .opened htask hgo
  case unopened.opening => exact .unopened htask hgo
  case received.reading octets stream =>
    split_ifs at h with hbad
    obtain rfl := Option.some.inj h
    exact .received htask hgo
  case finished.reading => exact .finished htask hgo
  case broken.reading => exact .broken htask hgo
  case released.rejecting => exact .rejected htask hgo
  case released.releasing => exact .released htask
  case released.discarding => exact .discarded htask
  case released.closing => exact .closed htask
  case slept.retrying => exact .retried htask hgo
  case slept.backingOff => exact .backedOff htask hgo
  case slept.pausing => exact .paused htask hgo

/-- Nothing else happens after a wait. -/
lemma wake_spec (h : c.wake move = some turn) : c.Wakes move turn := by
  have hgoOn : ∀ {move : Move},
      (if c.mustStop then none else c.goOn move) = some turn → c.Wakes move turn := by
    intro move h
    split_ifs at h with hgo
    exact goOn_spec (by simpa using hgo) h
  cases move
  case run =>
    simp only [wake] at h
    split at h
    next htask =>
      obtain rfl := Option.some.inj h
      exact .begin htask
    next =>
      split_ifs at h with hstop
      obtain ⟨p, hp, rfl⟩ := Option.map_eq_some_iff.mp h
      exact giveUp_spec hstop hp
  all_goals exact hgoOn h

end Connection

/-! ## What others do -/

/-- What callers, the watchdog and the server do to a connection, one access at a time. -/
inductive Strike where
  /-- Starts the task, by a caller who may have looked for a shutdown long before. -/
  | launch
  /-- A shutdown begins: the state is final. -/
  | condemn
  /-- A shutdown cancels everything. -/
  | cancel
  /-- A shutdown or a reconnect stops the watchdog. -/
  | unwatch
  /-- A shutdown takes the task over. -/
  | detach
  /-- A reconnect is counted. -/
  | count
  /-- A reconnect cancels the session. -/
  | interrupt
  /-- A session is no longer connected. -/
  | lose (session : Nat)
  | enroll (x : Instance Observer)
  | dismiss (id : String)
  | clear

/-- What becomes of the connection. -/
def Connection.struck (c : Connection) : Strike → Connection × List Deed
  | .launch =>
    (if c.started then c else { c with started := true, joinable := true, task := .spawned }, [])
  | .condemn => ({ c with state := .shuttingDown }, [])
  | .cancel => ({ c with shutdown := true }, [])
  | .unwatch => c.stopWatchdog
  | .detach => ({ c with joinable := false }, [])
  | .count => ({ c with reconnects := c.reconnects + 1 }, [])
  | .interrupt => ({ c with cancelled := c.cancelled.map fun _ => true }, [])
  | .lose session => ({ c with lost := session :: c.lost }, [])
  | .enroll x => ((c.addListener x).2, [])
  | .dismiss id => ((c.removeListener id).2, [])
  | .clear => (c.removeAllListeners.2, [])

/-! ## Runs -/

/-- What can happen next. -/
inductive Happening where
  /-- The task does what it is about to do.  Observers that it tells something may crash. -/
  | pass (crashing : String → Bool)
  /-- The task goes on after a wait. -/
  | wake (move : Move)
  | strike (s : Strike)

/-- Whether a deed begins a connect or asks for a stream. -/
def Deed.begins : Deed → Bool
  | .call (.connect _) | .call (.openStream _ _) => true
  | _ => false

/-- What can be seen of a happening: the state after it, and what has been done in it. -/
structure Sight where
  state : ConnectionState
  deeds : List Deed

namespace Course

/-- What a happening leads to; none if it cannot happen now. -/
def step (r : Course) : Happening → Option (Course × List Deed)
  | .pass crashing => some (r.connection.pass crashing r.point)
  | .wake move =>
    match r.point with
    | .waiting => r.connection.wake move
    | _ => none
  | .strike s => let (c, deeds) := r.connection.struck s; some (⟨c, r.point⟩, deeds)

/-- A sequence of happenings, with what can be seen of them. -/
def log (r : Course) : List Happening → Option (Course × List Sight)
  | [] => some (r, [])
  | x :: rest => do
    let (next, deeds) ← r.step x
    let (last, sights) ← next.log rest
    return (last, ⟨next.connection.state, deeds⟩ :: sights)

/-- A connection that nobody has started. -/
def ofConnection (c : Connection) : Course := ⟨c, .waiting⟩

/-- The task has come to its end. -/
def HasEnded (r : Course) : Prop := r.point = .waiting ∧ r.connection.task = .ended

variable {r next last : Course} {x : Happening} {rest : List Happening} {deeds : List Deed}
  {turn : Course × List Deed}

lemma log_cons {sights : List Sight}
    (hstep : r.step x = some (next, deeds)) (hrest : next.log rest = some (last, sights)) :
    r.log (x :: rest) = some (last, ⟨next.connection.state, deeds⟩ :: sights) := by
  simp only [log, hstep, hrest, Option.bind_eq_bind, Option.bind_some, Option.pure_def]

/-- A log of a first happening is that happening and a log after it. -/
lemma exists_of_log_cons {result : Course × List Sight}
    (h : r.log (x :: rest) = some result) :
    ∃ turn after, r.step x = some turn ∧ turn.1.log rest = some after
      ∧ result = (after.1, ⟨turn.1.connection.state, turn.2⟩ :: after.2) := by
  obtain ⟨turn, hturn, hafter⟩ := Option.bind_eq_some_iff.mp h
  obtain ⟨after, hrest, hresult⟩ := Option.bind_eq_some_iff.mp hafter
  exact ⟨turn, after, hturn, hrest, (Option.some.inj hresult).symm⟩

/-- What a happening leads to, and what can be seen of it. -/
def seen (r : Course) (x : Happening) : Option (Course × List Sight) :=
  (r.step x).map fun turn => (turn.1, [⟨turn.1.connection.state, turn.2⟩])

/-- A run is a sequence of happenings that are seen. -/
lemma isRun : IsRun seen log [] (· ++ ·) :=
  .ofLists (fun _ => rfl) fun r x rest => by
    rw [seen, Option.bind_map]
    rfl

/-- **What every happening preserves holds after every run.**  The property may depend on all that
has happened so far, which is a run as well. -/
theorem log_induction {start : Course} {I : List Happening → Course → List Sight → Prop}
    (hstep : ∀ past r sights x turn, start.log past = some (r, sights) → I past r sights →
      r.step x = some turn →
      I (past ++ [x]) turn.1 (sights ++ [⟨turn.1.connection.state, turn.2⟩]))
    (happenings past : List Happening) {r last : Course} {sights more : List Sight}
    (hpast : start.log past = some (r, sights)) (hI : I past r sights)
    (hlog : r.log happenings = some (last, more)) :
    I (past ++ happenings) last (sights ++ more) := by
  have hall := isRun.induction_after
    (I := fun r past sights => start.log past = some (r, sights) ∧ I past r sights)
    (fun r past sights x next now _ hr hseen => by
      obtain ⟨turn, hturn, hresult⟩ := Option.map_eq_some_iff.mp hseen
      cases hresult
      exact ⟨isRun.append_eq_some hr.1 (isRun.singleton_eq_some hseen),
        hstep past r sights x turn hr.1 hr.2 hturn⟩)
    past sights ⟨hpast, hI⟩ hlog
  exact hall.2

/-- What every happening preserves of a connection alone. -/
lemma log_invariant {I : Course → Prop} {happenings : List Happening} {sights : List Sight}
    (hstep : ∀ r x turn, I r → r.step x = some turn → I turn.1) (h : I r)
    (hlog : r.log happenings = some (last, sights)) : I last :=
  isRun.invariant (fun r x _ _ _ hr hseen => by
    obtain ⟨turn, hturn, hresult⟩ := Option.map_eq_some_iff.mp hseen
    cases hresult
    exact hstep r x turn hr hturn) h hlog

/-! ## The start -/

/-- There is no task before the connection is started, and there is one from then on. -/
def Fresh (r : Course) : Prop :=
  r.connection.started = false ↔ r.point = .waiting ∧ r.connection.task = .absent

/-- The task does nothing that is for others to do. -/
lemma pass_frame (crashing : String → Bool) (c : Connection) (p : Point) :
    (c.pass crashing p).1.connection.started = c.started
      ∧ (c.pass crashing p).1.connection.listeners = c.listeners
      ∧ (c.pass crashing p).1.connection.shutdown = c.shutdown
      ∧ (c.pass crashing p).1.connection.reconnects = c.reconnects := by
  cases p with
  | refresh => rw [Connection.pass, Connection.refresh_eq]; exact ⟨rfl, rfl, rfl, rfl⟩
  | announce => rw [Connection.pass_announce]; exact ⟨rfl, rfl, rfl, rfl⟩
  | mourn => rw [Connection.pass_mourn]; split_ifs <;> exact ⟨rfl, rfl, rfl, rfl⟩
  | choose reusable =>
      cases reusable with
      | none => exact ⟨rfl, rfl, rfl, rfl⟩
      | some session => rw [Connection.pass]; split_ifs <;> exact ⟨rfl, rfl, rfl, rfl⟩
  | leave reusable => cases reusable <;> exact ⟨rfl, rfl, rfl, rfl⟩
  | reuse | attempt | ask | establish =>
      rw [Connection.pass]; split_ifs <;> exact ⟨rfl, rfl, rfl, rfl⟩
  | judge => simp only [Connection.pass]; split_ifs <;> exact ⟨rfl, rfl, rfl, rfl⟩
  | _ => exact ⟨rfl, rfl, rfl, rfl⟩

/-- A task that comes to a wait is there. -/
lemma absent_of_pass {c : Connection} {p : Point} {crashing : String → Bool}
    (hpoint : (c.pass crashing p).1.point = .waiting)
    (htask : (c.pass crashing p).1.connection.task = .absent) :
    p = .waiting ∧ c.task = .absent := by
  cases p with
  | waiting => exact ⟨rfl, htask⟩
  | loop | connect =>
      simp only [Connection.pass] at hpoint
      split_ifs at hpoint
  | choose reusable =>
      cases reusable with
      | none => cases hpoint
      | some session =>
          rw [Connection.pass] at hpoint htask
          split_ifs at hpoint htask
  | leave reusable => cases reusable <;> cases htask
  | reuse | attempt | ask | establish =>
      rw [Connection.pass] at hpoint htask
      split_ifs at hpoint htask
  | announce =>
      simp only [Connection.pass] at hpoint
      split_ifs at hpoint
  | judge | mourn =>
      simp only [Connection.pass] at hpoint htask
      split_ifs at hpoint htask
  | read => cases htask
  | _ => cases hpoint

lemma fresh_pass {crashing : String → Bool} (h : r.Fresh) :
    (r.connection.pass crashing r.point).1.Fresh := by
  have hfresh : r.connection.started = false
      ↔ r.point = .waiting ∧ r.connection.task = .absent := h
  rw [Fresh, (pass_frame _ _ _).1, hfresh]
  constructor
  · rintro ⟨hpoint, htask⟩
    rw [hpoint]
    exact ⟨rfl, htask⟩
  · rintro ⟨hpoint, htask⟩
    exact absent_of_pass hpoint htask

lemma fresh_of_wakes {c : Connection} {move : Move} (h : Fresh ⟨c, .waiting⟩)
    (hwakes : c.Wakes move turn) : turn.1.Fresh := by
  have habsent : c.started = false ↔ c.task = .absent := h.trans ⟨And.right, fun h => ⟨rfl, h⟩⟩
  cases hwakes with
  | stopWaiting htask _ | stopReading htask _ => rcases htask with htask | htask <;>
      simp [Fresh, habsent, htask]
  | _ => simp_all [Fresh, Connection.take]

/-- Starting is what makes the task. -/
lemma Fresh.step (h : r.Fresh) (hstep : r.step x = some turn) : turn.1.Fresh := by
  cases x with
  | pass crashing =>
      obtain rfl := Option.some.inj hstep
      exact fresh_pass h
  | wake move =>
      obtain ⟨c, p⟩ := r
      cases p <;> try cases hstep
      exact fresh_of_wakes h (Connection.wake_spec hstep)
  | strike s =>
      obtain rfl := Option.some.inj hstep
      cases s with
      | launch =>
          split_ifs
          · exact h
          · simp [Fresh]
      | _ => exact h

/-- A shutdown that has been requested stays so. -/
lemma shutdown_of_step (h : r.connection.shutdown = true) (hstep : r.step x = some turn) :
    turn.1.connection.shutdown = true := by
  cases x with
  | pass crashing =>
      obtain rfl := Option.some.inj hstep
      exact (pass_frame crashing r.connection r.point).2.2.1.trans h
  | wake move =>
      obtain ⟨c, p⟩ := r
      cases p <;> try cases hstep
      cases Connection.wake_spec hstep <;> exact h
  | strike s =>
      obtain rfl := Option.some.inj hstep
      cases s with
      | launch => split_ifs <;> exact h
      | cancel => rfl
      | _ => exact h

/-- After its end the task does nothing; others may still stop the watchdog. -/
lemma HasEnded.step (h : r.HasEnded) (hfresh : r.Fresh) (hstep : r.step x = some turn) :
    turn.1.HasEnded ∧ ∀ d ∈ turn.2, d = .unwatch := by
  obtain ⟨c, p⟩ := r
  obtain rfl : p = .waiting := h.1
  have hended : c.task = .ended := h.2
  cases x with
  | pass crashing =>
      obtain rfl := Option.some.inj hstep
      exact ⟨h, by simp [Connection.pass]⟩
  | wake move => cases Connection.wake_spec hstep <;> simp_all
  | strike s =>
      obtain rfl := Option.some.inj hstep
      cases s with
      | launch =>
          split_ifs with hstarted
          · exact ⟨h, by simp⟩
          · have habsent : c.task = .absent := (hfresh.mp (Bool.eq_false_iff.mpr hstarted)).2
            rw [hended] at habsent
            cases habsent
      | unwatch => exact ⟨h, fun d hd => Connection.eq_of_mem_stopWatchdog hd⟩
      | _ => exact ⟨h, by simp⟩

lemma fresh_of_log {happenings : List Happening} {sights : List Sight} (h : r.Fresh)
    (hlog : r.log happenings = some (last, sights)) : last.Fresh :=
  log_invariant (fun _ _ _ hr hstep => hr.step hstep) h hlog

lemma fresh_ofConfig (config : ConnectionConfig) (hasDispatcher : Bool)
    (updater : Option CredentialUpdater) (listeners : ListenerSet Observer) :
    (ofConnection { Connection.ofConfig config hasDispatcher updater with listeners }).Fresh := by
  simp [Fresh, ofConnection, Connection.ofConfig]

/-! ## Beginnings -/

lemma begins_of_pass {c : Connection} {p : Point} {crashing : String → Bool} {d : Deed}
    (hmem : d ∈ (c.pass crashing p).2) (hbegins : d.begins = true) :
    (p = .attempt ∧ ∃ config, d = .call (.connect config))
      ∨ c.isInterrupted = false ∧ ∃ session command, p = .ask session
        ∧ d = .call (.openStream session command) := by
  cases p with
  | attempt =>
      rw [Connection.pass] at hmem
      split_ifs at hmem
      · exact absurd hmem List.not_mem_nil
      · exact .inl ⟨rfl, _, List.mem_singleton.mp hmem⟩
  | ask session =>
      rw [Connection.pass] at hmem
      split_ifs at hmem with hgo
      · exact absurd hmem List.not_mem_nil
      · exact .inr ⟨Bool.eq_false_iff.mpr hgo, _, _, rfl, List.mem_singleton.mp hmem⟩
  | refresh =>
      rw [Connection.eq_of_mem_refresh hmem] at hbegins
      cases hbegins
  | unguard =>
      rw [Connection.eq_of_mem_stopWatchdog hmem] at hbegins
      cases hbegins
  | announce =>
      rw [Connection.pass_announce] at hmem
      obtain ⟨observer, rfl⟩ := Connection.exists_eq_of_mem_tellAll hmem
      cases hbegins
  | mourn =>
      rw [Connection.pass_mourn] at hmem
      dsimp only at hmem
      split_ifs at hmem
      · obtain ⟨observer, rfl⟩ := Connection.exists_eq_of_mem_tellAll hmem
        cases hbegins
      · exact absurd hmem List.not_mem_nil
  | guard =>
      cases htimeout : c.config.watchdogTimeout? <;>
        simp [Connection.pass, htimeout] at hmem
      rw [hmem] at hbegins
      cases hbegins
  | choose reusable =>
      cases reusable with
      | none => exact absurd hmem List.not_mem_nil
      | some session =>
          rw [Connection.pass] at hmem
          split_ifs at hmem
          · exact absurd hmem List.not_mem_nil
          · rw [List.mem_singleton.mp hmem] at hbegins
            cases hbegins
  | leave reusable =>
      cases reusable with
      | none => exact absurd hmem List.not_mem_nil
      | some session =>
          rw [List.mem_singleton.mp hmem] at hbegins
          cases hbegins
  | reuse | establish =>
      rw [Connection.pass] at hmem
      split_ifs at hmem <;> exact absurd hmem List.not_mem_nil
  | judge =>
      simp only [Connection.pass] at hmem
      split_ifs at hmem
      · exact absurd hmem List.not_mem_nil
      · rw [List.mem_singleton.mp hmem] at hbegins
        cases hbegins
  | _ => exact absurd hmem List.not_mem_nil

/-- Only the task begins connects and streams, at two points, and a stream only when it has found
that it is not interrupted. -/
lemma begins_of_step {d : Deed} (hstep : r.step x = some turn) (hmem : d ∈ turn.2)
    (hbegins : d.begins = true) :
    (r.point = .attempt ∧ ∃ config, d = .call (.connect config))
      ∨ r.connection.isInterrupted = false ∧ ∃ session command, r.point = .ask session
        ∧ d = .call (.openStream session command) := by
  cases x with
  | pass crashing =>
      obtain rfl := Option.some.inj hstep
      exact begins_of_pass hmem hbegins
  | wake move =>
      obtain ⟨c, p⟩ := r
      cases p <;> try cases hstep
      cases Connection.wake_spec hstep with
      | received =>
          obtain ⟨line, rfl⟩ | rfl := Connection.eq_of_mem_take hmem <;> cases hbegins
      | connected | unanswered =>
          rw [List.mem_singleton.mp hmem] at hbegins
          cases hbegins
      | _ => exact absurd hmem List.not_mem_nil
  | strike s =>
      obtain rfl := Option.some.inj hstep
      cases s with
      | unwatch =>
          rw [Connection.eq_of_mem_stopWatchdog hmem] at hbegins
          cases hbegins
      | _ => exact absurd hmem List.not_mem_nil

end Course

end ReviewStream
