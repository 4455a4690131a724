import Mathlib.Tactic.Lemma
import Mathlib.Tactic.SplitIfs
import ReviewStream.Connection.Task

/-!
# The steps of a connection

What a move leads to depends on what the task waits for and on whether it has to stop.  Both are
looked at here once and for all.

* `Connection.Step`: everything that a move can lead to, with the guard under which it does.
* `Connection.step_spec`: nothing else happens.
* `Connection.history`: a run that keeps apart what is done in each move.
* **`Connection.history_induction`**: what every move preserves holds after every run.
-/

namespace ReviewStream.Connection

variable {c : Connection} {move : Move} {turn : Turn}

/-! ## What small stretches do -/

/-- Asking for another credential changes the settings and counts the request. -/
lemma refresh_eq (c : Connection) :
    c.refresh.1 = { c with config := c.refresh.1.config, refreshes := c.refresh.1.refreshes } := by
  rw [refresh]
  split <;> rfl

lemma eq_of_mem_refresh {d : Deed} (h : d ∈ c.refresh.2) : d = .refresh c.config.credential := by
  simp only [refresh] at h
  split at h
  · exact absurd h List.not_mem_nil
  · exact List.mem_singleton.mp h

lemma eq_of_mem_stopWatchdog {d : Deed} (h : d ∈ c.stopWatchdog.2) : d = .unwatch := by
  simp only [stopWatchdog] at h
  split_ifs at h
  · exact List.mem_singleton.mp h
  · exact absurd h List.not_mem_nil

lemma eq_of_mem_take {s : Stream} {octets : List Text.Octet} {d : Deed}
    (h : d ∈ (c.take s octets).2) : (∃ line, d = .post line s.provider) ∨ d = .signal := by
  simp only [take] at h
  rcases List.mem_append.mp h with h | h
  · split_ifs at h
    · obtain ⟨line, -, rfl⟩ := List.mem_map.mp h
      exact .inl ⟨line, rfl⟩
    · exact absurd h List.not_mem_nil
  · split_ifs at h
    · exact .inr (List.mem_singleton.mp h)
    · exact absurd h List.not_mem_nil

lemma exists_eq_of_mem_tellAll {e : ConnectionEvent} {d : Deed} (h : d ∈ c.tellAll e) :
    ∃ observer, d = .tell observer e := by
  obtain ⟨x, -, rfl⟩ := List.mem_map.mp h
  exact ⟨x.id, rfl⟩

/-! ## Single moves -/

/-- What a move can lead to. -/
inductive Step (c : Connection) : Move → Turn → Prop
  | start {next : Connection} (h : c.start? = .ok next) : Step c .start (next, [])
  | startRefused {e : ConnectionError} (h : c.start? = .error e) : Step c .start (c, [])
  | shutdown : Step c .shutdown c.requestShutdown
  | reconnect : Step c .reconnect c.reconnect
  | alarm (h : c.watched = true) : Step c .alarm c.reconnect
  | lose {session : Nat} (h : session < c.sessions) :
      Step c (.lose session) ({ c with lost := session :: c.lost }, [])
  | begin (htask : c.task = .spawned) : Step c .run (c.proceed none)
  | stopConnecting (htask : c.task = .connecting) (hstop : c.shutdown = true) :
      Step c .run (c.finish none)
  | stopQuerying {session : Nat} (htask : c.task = .querying session) (hstop : c.shutdown = true) :
      Step c .run (c.finish none)
  | stopRejecting {session : Nat} (htask : c.task = .rejecting session)
      (hstop : c.shutdown = true) : Step c .run (c.finish none)
  | stopRetrying (htask : c.task = .retrying) (hstop : c.shutdown = true) :
      Step c .run (c.finish none)
  | stopBackingOff {reusable : Option Nat} (htask : c.task = .backingOff reusable)
      (hstop : c.shutdown = true) : Step c .run (c.finish reusable)
  | stopOpening {session : Nat} (htask : c.task = .opening session)
      (hstop : c.isInterrupted = true) : Step c .run (c.endStream session .interrupted)
  | stopReading {stream : Stream} (htask : c.task = .reading stream)
      (hstop : c.isInterrupted = true) : Step c .run (c.endStream stream.session .interrupted)
  | stopPausing {stream : Stream} (htask : c.task = .pausing stream)
      (hstop : c.isInterrupted = true) : Step c .run (c.endStream stream.session .interrupted)
  | connected (htask : c.task = .connecting) (hgo : c.shutdown = false) :
      Step c .connected ({ c with sessions := c.sessions + 1, task := .querying c.sessions },
        [.call (.execute c.sessions versionCommand)])
  | refused {e : TransportError} (htask : c.task = .connecting) (hgo : c.shutdown = false) :
      Step c (.refused e) ({ c with task := .retrying }, [])
  | answered {output : String} {session : Nat} (htask : c.task = .querying session)
      (hgo : c.shutdown = false) :
      Step c (.answered output) ({ c with version := some (versionOf output) }.openStream session)
  | unanswered {e : TransportError} {session : Nat} (htask : c.task = .querying session)
      (hgo : c.shutdown = false) :
      Step c (.unanswered e) ({ c with task := .rejecting session }, [.call (.disconnect session)])
  | opened {session : Nat} (htask : c.task = .opening session) (hgo : c.isInterrupted = false) :
      Step c .opened (c.beginStream session)
  | unopened {e : TransportError} {session : Nat} (htask : c.task = .opening session)
      (hgo : c.isInterrupted = false) : Step c (.unopened e) (c.endStream session .failed)
  | received {octets : List Text.Octet} {stream : Stream} (htask : c.task = .reading stream)
      (hgo : c.isInterrupted = false) (hsome : octets ≠ [])
      (hfits : octets.length ≤ stream.buffer.room) :
      Step c (.received octets) (c.take stream octets)
  | finished {stream : Stream} (htask : c.task = .reading stream) (hgo : c.isInterrupted = false) :
      Step c .finished (c.endStream stream.session (.finished stream.received))
  | broken {stream : Stream} (htask : c.task = .reading stream) (hgo : c.isInterrupted = false) :
      Step c .broken (c.endStream stream.session .failed)
  | rejected {session : Nat} (htask : c.task = .rejecting session) (hgo : c.shutdown = false) :
      Step c .released ({ c with task := .retrying }, [])
  | released {session : Nat} {backOff : Bool} (htask : c.task = .releasing session backOff) :
      Step c .released (c.afterStream none backOff)
  | discarded {session : Nat} (htask : c.task = .discarding session) : Step c .released c.connect
  | closed {session : Nat} (htask : c.task = .closing session) : Step c .released (c.finish none)
  | retried (htask : c.task = .retrying) (hgo : c.shutdown = false) : Step c .slept c.connect
  | backedOff {reusable : Option Nat} (htask : c.task = .backingOff reusable)
      (hgo : c.shutdown = false) : Step c .slept (c.proceed reusable)
  | paused {stream : Stream} (htask : c.task = .pausing stream) (hgo : c.isInterrupted = false) :
      Step c .slept ({ c with task := .reading stream }, [])

/-- A task that has to stop gives up what it waits for. -/
lemma stopWaiting_spec (hstop : c.mustStop = true) (h : c.stopWaiting = some turn) :
    c.Step .run turn := by
  rw [mustStop] at hstop
  rw [stopWaiting] at h
  cases htask : c.task <;> rw [htask] at hstop h <;> cases h
  case connecting => exact .stopConnecting htask hstop
  case querying => exact .stopQuerying htask hstop
  case rejecting => exact .stopRejecting htask hstop
  case retrying => exact .stopRetrying htask hstop
  case backingOff => exact .stopBackingOff htask hstop
  case opening => exact .stopOpening htask hstop
  case reading => exact .stopReading htask hstop
  case pausing => exact .stopPausing htask hstop

/-- A task that need not stop goes on when that comes which it waits for. -/
lemma resume_spec (hgo : c.mustStop = false) (h : c.resume move = some turn) :
    c.Step move turn := by
  rw [mustStop] at hgo
  cases move <;> simp only [resume] at h <;> try cases h
  all_goals
    cases htask : c.task <;> simp only [htask] at hgo h <;> try cases h
  case connected.connecting => exact .connected htask hgo
  case refused.connecting => exact .refused htask hgo
  case answered.querying => exact .answered htask hgo
  case unanswered.querying => exact .unanswered htask hgo
  case opened.opening => exact .opened htask hgo
  case unopened.opening => exact .unopened htask hgo
  case received.reading octets stream =>
    split_ifs at h with hbad
    obtain rfl := Option.some.inj h
    simp only [Bool.or_eq_true, List.isEmpty_iff, decide_eq_true_eq, not_or, Nat.not_lt] at hbad
    exact .received htask hgo hbad.1 hbad.2
  case finished.reading => exact .finished htask hgo
  case broken.reading => exact .broken htask hgo
  case released.rejecting => exact .rejected htask hgo
  case released.releasing => exact .released htask
  case released.discarding => exact .discarded htask
  case released.closing => exact .closed htask
  case slept.retrying => exact .retried htask hgo
  case slept.backingOff => exact .backedOff htask hgo
  case slept.pausing => exact .paused htask hgo

/-- Every move leads to what is listed. -/
lemma step_spec (h : c.step move = some turn) : c.Step move turn := by
  -- What the task waits for counts only if it need not stop.
  have hresume : ∀ {move : Move},
      (if c.mustStop then none else c.resume move) = some turn → c.Step move turn := by
    intro move h
    split_ifs at h with hgo
    exact resume_spec (by simpa using hgo) h
  cases move
  case start =>
    simp only [step] at h
    split at h <;> obtain rfl := Option.some.inj h
    next hstart => exact .start hstart
    next hstart => exact .startRefused hstart
  case shutdown =>
    obtain rfl := Option.some.inj h
    exact .shutdown
  case reconnect =>
    obtain rfl := Option.some.inj h
    exact .reconnect
  case alarm =>
    simp only [step] at h
    split_ifs at h with hwatched
    obtain rfl := Option.some.inj h
    exact .alarm hwatched
  case lose session =>
    simp only [step] at h
    split_ifs at h with hsession
    obtain rfl := Option.some.inj h
    exact .lose hsession
  case run =>
    simp only [step] at h
    split at h
    next htask =>
      obtain rfl := Option.some.inj h
      exact .begin htask
    next =>
      split_ifs at h with hstop
      exact stopWaiting_spec hstop h
  all_goals exact hresume h

/-! ## Runs -/

/-- A move, and what the connection did in it. -/
structure Entry where
  move : Move
  deeds : List Deed

/-- A sequence of moves, with what the connection does in each of them. -/
def history (c : Connection) : List Move → Option (Connection × List Entry)
  | [] => some (c, [])
  | move :: rest => do
    let (next, deeds) ← c.step move
    let (last, entries) ← next.history rest
    return (last, ⟨move, deeds⟩ :: entries)

/-- A history with a first move is that move and a history after it. -/
lemma exists_of_history_cons {moves : List Move} {r : Connection × List Entry}
    (h : c.history (move :: moves) = some r) :
    ∃ turn rest, c.step move = some turn ∧ turn.1.history moves = some rest
      ∧ r = (rest.1, ⟨move, turn.2⟩ :: rest.2) := by
  obtain ⟨turn, hturn, hafter⟩ := Option.bind_eq_some_iff.mp h
  obtain ⟨rest, hrest, hr⟩ := Option.bind_eq_some_iff.mp hafter
  exact ⟨turn, rest, hturn, hrest, (Option.some.inj hr).symm⟩

/-- **What every move preserves holds after every run.**  The property may depend on all that has
happened so far. -/
theorem history_induction {I : Connection → List Entry → Prop}
    (hstep : ∀ c past move turn, I c past → c.step move = some turn →
      I turn.1 (past ++ [⟨move, turn.2⟩])) :
    ∀ (moves : List Move) (c : Connection) (past : List Entry) {r : Connection × List Entry},
      I c past → c.history moves = some r → I r.1 (past ++ r.2)
  | [], c, past, r, hI, h => by
      obtain rfl := Option.some.inj h
      rwa [List.append_nil]
  | move :: moves, c, past, r, hI, h => by
      obtain ⟨turn, rest, hturn, hrest, rfl⟩ := exists_of_history_cons h
      rw [List.append_cons]
      exact history_induction hstep moves _ _ (hstep c past move turn hI hturn) hrest

/-- A history has an entry for each move. -/
lemma map_move_of_history : ∀ {moves : List Move} {c : Connection} {r : Connection × List Entry},
    c.history moves = some r → r.2.map (·.move) = moves
  | [], _, _, h => by
      obtain rfl := Option.some.inj h
      rfl
  | move :: moves, c, r, h => by
      obtain ⟨turn, rest, -, hrest, rfl⟩ := exists_of_history_cons h
      rw [List.map_cons, map_move_of_history hrest]

/-- A history tells what is done in a run, move by move. -/
theorem run_eq_history : ∀ (moves : List Move) (c : Connection),
    c.run moves = (c.history moves).map fun r => (r.1, r.2.flatMap (·.deeds))
  | [], _ => rfl
  | move :: moves, c => by
      rw [run, history]
      cases c.step move with
      | none => rfl
      | some turn =>
          simp only [Option.bind_eq_bind, Option.bind_some, run_eq_history moves turn.1]
          cases turn.1.history moves <;> rfl

end ReviewStream.Connection
