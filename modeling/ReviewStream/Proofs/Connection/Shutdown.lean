import ReviewStream.Proofs.Connection.Lifecycle
import ReviewStream.Proofs.Connection.Undisturbed

/-!
# The end of a connection

A shutdown reaches the task in whatever wait it is.  From then on the task takes leave: it
disconnects what it has open, tells its observers if a stream was established, and comes to its end.

* `Connection.farewell`: what is still to be done when a shutdown comes.
* `Connection.Doomed`: a shutdown has come.
* `Connection.Fades`: what one move does after that.
* **`Connection.fades_after_shutdown`**: what a connection does after a shutdown, whatever else
  happens.
-/

namespace ReviewStream

open Connection (Entry Move)

/-! ## Taking leave -/

/-- Whether a move is none of the task's own. -/
def Connection.Move.isForeign : Move → Bool
  | .start | .shutdown | .reconnect | .alarm | .lose _ => true
  | _ => false

/-- The sessions that the task disconnects when it gives up.  One that is asked for its version is
not among them. -/
def Task.leaves : Task → List Nat
  | .opening session => [session]
  | .reading s | .pausing s => [s.session]
  | .backingOff reusable => reusable.toList
  | _ => []

/-- How many turns the task can still have. -/
def Task.turns : Task → Nat
  | .absent | .ended => 0
  | .opening _ | .reading _ | .pausing _ => 3
  | .releasing _ _ | .backingOff (some _) => 2
  | _ => 1

/-- Whether the task waits for the end of a session, and for nothing else. -/
def Task.isReleasing : Task → Bool
  | .releasing _ _ | .discarding _ | .closing _ => true
  | _ => false

/-- Whether the task takes leave: it waits for the end of a session, is about to end or has
ended. -/
def Task.isLeaving : Task → Bool
  | .releasing _ _ | .backingOff none | .closing _ | .ended => true
  | _ => false

namespace Connection

variable {c : Connection} {task : Task} {move : Move} {turn : Turn} {session : Nat}

/-- What is still to be done when a shutdown comes. -/
def farewell (c : Connection) : List Deed :=
  c.task.leaves.map (fun session => .call (.disconnect session))
    ++ if c.established then c.tellAll .down else []

/-! ## After a shutdown -/

/-- A shutdown has come. -/
structure Doomed (c : Connection) : Prop where
  sound : (Course.ofConnection c).Sound
  fresh : (Course.ofConnection c).Fresh
  present : c.task ≠ .absent
  shutdown_eq : c.shutdown = true
  state_eq : c.state = .shuttingDown
  unwatched : c.watched = false

/-- What one move does after a shutdown: something that the task has nothing to do with, or a turn
of the task, which brings it nearer to its end. -/
structure Fades (c : Connection) (move : Move) (turn : Turn) : Prop where
  doomed : turn.1.Doomed
  farewell_eq : turn.2 ++ turn.1.farewell = c.farewell
  task : move.isForeign = true ∧ turn.1.task = c.task
    ∨ (move = .run ∨ move = .released) ∧ turn.1.task.isLeaving = true
      ∧ turn.1.task.turns < c.task.turns

lemma Doomed.isInterrupted (h : c.Doomed) : c.isInterrupted = true := by
  rw [Connection.isInterrupted, h.shutdown_eq, Bool.true_or]

/-- A move keeps what holds at every moment. -/
lemma sound_of_step (h : (Course.ofConnection c).Sound) (hfresh : (Course.ofConnection c).Fresh)
    (hstep : c.step move = some turn) :
    (Course.ofConnection turn.1).Sound ∧ (Course.ofConnection turn.1).Fresh := by
  obtain ⟨happenings, sights, hlog, -⟩ := Course.leads_of_move (step_spec hstep)
  exact ⟨Course.sound_of_log h hfresh hlog, Course.fresh_of_log hfresh hlog⟩

/-- Only a stream that is read or released can be established. -/
lemma Doomed.established_eq_false (h : c.Doomed) (htask : c.task = task)
    (hstanding : task.standing = .idle ∨ task.standing = .trying) : c.established = false := by
  have hsound : c.task.standing.Fits c.state c.established := h.sound
  rw [htask] at hsound
  rcases hstanding with hstanding | hstanding <;> rw [hstanding] at hsound <;> exact hsound.2

lemma farewell_eq_nil (htask : c.task = task) (hleaves : task.leaves = [])
    (hestablished : c.established = false) : c.farewell = [] := by
  rw [farewell, htask, hleaves, hestablished]
  rfl

/-! ## Turns of the task -/

/-- The task ends at once. -/
lemma Doomed.fades_finish (h : c.Doomed)
    (hafter : (Course.ofConnection (c.finish none).1).Sound
      ∧ (Course.ofConnection (c.finish none).1).Fresh)
    (hmove : move = .run ∨ move = .released) (htask : c.task = task) (hleaves : task.leaves = [])
    (hstanding : task.standing = .idle ∨ task.standing = .trying) (hturns : 0 < task.turns) :
    Fades c move (c.finish none) := by
  have hestablished := h.established_eq_false htask hstanding
  constructor
  case doomed =>
    exact ⟨hafter.1, hafter.2, by simp [finish], h.shutdown_eq, h.state_eq, h.unwatched⟩
  case farewell_eq =>
    rw [farewell_eq_nil htask hleaves hestablished]
    exact farewell_eq_nil (c := (c.finish none).1) rfl rfl hestablished
  case task => exact .inr ⟨hmove, rfl, by rw [htask]; exact hturns⟩

/-- The task disconnects the session that it has kept. -/
lemma Doomed.fades_finish_some (h : c.Doomed)
    (hafter : (Course.ofConnection (c.finish (some session)).1).Sound
      ∧ (Course.ofConnection (c.finish (some session)).1).Fresh)
    (htask : c.task = .backingOff (some session)) : Fades c .run (c.finish (some session)) := by
  have hestablished : c.established = false := h.established_eq_false htask (.inl rfl)
  constructor
  case doomed =>
    exact ⟨hafter.1, hafter.2, by simp [finish], h.shutdown_eq, h.state_eq, h.unwatched⟩
  case farewell_eq =>
    rw [farewell_eq_nil (c := (c.finish (some session)).1) rfl rfl hestablished, farewell, htask,
      hestablished]
    rfl
  case task => exact .inr ⟨.inl rfl, rfl, by rw [htask]; exact Nat.one_lt_two⟩

/-- The task gives up a stream, or the opening of one. -/
lemma Doomed.fades_endStream (h : c.Doomed)
    (hafter : (Course.ofConnection (c.endStream session .interrupted).1).Sound
      ∧ (Course.ofConnection (c.endStream session .interrupted).1).Fresh)
    (hleaves : c.task.leaves = [session]) (hturns : c.task.turns = 3) :
    Fades c .run (c.endStream session .interrupted) := by
  have hend : c.endStream session .interrupted
      = ({ c with watched := false, cancelled := none, task := .releasing session false },
        [.call (.disconnect session)]) := by
    simp [endStream, stopWatchdog, Turn.after, h.unwatched]
  rw [hend] at hafter ⊢
  constructor
  case doomed => exact ⟨hafter.1, hafter.2, by simp, h.shutdown_eq, h.state_eq, rfl⟩
  case farewell_eq =>
    rw [farewell, farewell, hleaves]
    rfl
  case task => exact .inr ⟨.inl rfl, rfl, by rw [hturns]; exact Nat.lt_succ_self 2⟩

/-- The session is disconnected, and observers are told. -/
lemma Doomed.fades_afterStream (h : c.Doomed) {backOff : Bool}
    (hafter : (Course.ofConnection (c.afterStream none backOff).1).Sound
      ∧ (Course.ofConnection (c.afterStream none backOff).1).Fresh)
    (htask : c.task = .releasing session backOff) :
    Fades c .released (c.afterStream none backOff) := by
  set told : List Deed := if c.established then c.tellAll .down else [] with htold
  set later : Task := if backOff || !c.established then .backingOff none else .ended with hlater
  have heq : c.afterStream none backOff
      = ({ c with state := c.state.enter .disconnected, established := false, task := later },
        told) := by
    rw [afterStream, ← htold, hlater]
    split_ifs <;> simp [proceed, finish, Turn.after, h.shutdown_eq]
  obtain ⟨hleaving, hleaves, hturns, hpresent⟩ : later.isLeaving = true ∧ later.leaves = []
      ∧ later.turns < 2 ∧ later ≠ .absent := by
    rw [hlater]
    split_ifs <;> simp [Task.isLeaving, Task.leaves, Task.turns]
  rw [heq] at hafter ⊢
  constructor
  case doomed =>
    refine ⟨hafter.1, hafter.2, hpresent, h.shutdown_eq, ?_, h.unwatched⟩
    rw [h.state_eq]
    rfl
  case farewell_eq =>
    rw [farewell_eq_nil rfl hleaves rfl, farewell, htask, List.append_nil]
    rfl
  case task => exact .inr ⟨.inr rfl, hleaving, by rw [htask]; exact hturns⟩

/-- What others do changes nothing. -/
lemma Doomed.fades_foreign (h : c.Doomed)
    (hafter : (Course.ofConnection turn.1).Sound ∧ (Course.ofConnection turn.1).Fresh)
    (hmove : move.isForeign = true) (htask : turn.1.task = c.task)
    (hestablished : turn.1.established = c.established)
    (hlisteners : turn.1.listeners = c.listeners) (hshutdown : turn.1.shutdown = true)
    (hstate : turn.1.state = .shuttingDown) (hwatched : turn.1.watched = false)
    (hdeeds : turn.2 = []) : Fades c move turn := by
  constructor
  case doomed =>
    refine ⟨hafter.1, hafter.2, ?_, hshutdown, hstate, hwatched⟩
    rw [htask]
    exact h.present
  case farewell_eq =>
    rw [hdeeds, List.nil_append, farewell, farewell, htask, hestablished, tellAll, tellAll,
      hlisteners]
  case task => exact .inl ⟨hmove, htask⟩

/-- **What one move does after a shutdown.** -/
theorem Doomed.fades (h : c.Doomed) (hstep : c.step move = some turn) : Fades c move turn := by
  have hafter := sound_of_step h.sound h.fresh hstep
  have hstop := h.shutdown_eq
  have hinterrupted := h.isInterrupted
  cases step_spec hstep
  case start hstart => simp [start?, hstop] at hstart
  case startRefused => exact h.fades_foreign hafter rfl rfl rfl rfl hstop h.state_eq h.unwatched rfl
  case shutdown =>
    refine h.fades_foreign hafter rfl rfl rfl rfl rfl rfl rfl ?_
    simp [requestShutdown, stopWatchdog, h.unwatched]
  case reconnect =>
    refine h.fades_foreign hafter rfl rfl rfl rfl hstop h.state_eq rfl ?_
    simp [reconnect, stopWatchdog, h.unwatched]
  case alarm hwatched => simp [h.unwatched] at hwatched
  case lose => exact h.fades_foreign hafter rfl rfl rfl rfl hstop h.state_eq h.unwatched rfl
  case begin htask =>
    have hproceed : c.proceed none = c.finish none := by simp [proceed, hstop]
    rw [hproceed] at hafter ⊢
    exact h.fades_finish hafter (.inl rfl) htask rfl (.inl rfl) Nat.zero_lt_one
  case stopConnecting htask _ | stopQuerying htask _ =>
    exact h.fades_finish hafter (.inl rfl) htask rfl (.inr rfl) Nat.zero_lt_one
  case stopRejecting htask _ | stopRetrying htask _ =>
    exact h.fades_finish hafter (.inl rfl) htask rfl (.inl rfl) Nat.zero_lt_one
  case stopBackingOff reusable htask _ =>
    cases reusable with
    | none => exact h.fades_finish hafter (.inl rfl) htask rfl (.inl rfl) Nat.zero_lt_one
    | some session => exact h.fades_finish_some hafter htask
  case stopOpening htask _ | stopReading htask _ | stopPausing htask _ =>
    exact h.fades_endStream hafter (by rw [htask]; rfl) (by rw [htask]; rfl)
  case released htask => exact h.fades_afterStream hafter htask
  case discarded htask =>
    have hconnect : c.connect = c.finish none := by simp [connect, hstop]
    rw [hconnect] at hafter ⊢
    exact h.fades_finish hafter (.inr rfl) htask rfl (.inl rfl) Nat.zero_lt_one
  case closed htask =>
    exact h.fades_finish hafter (.inr rfl) htask rfl (.inl rfl) Nat.zero_lt_one
  -- Everything else happens to tasks only that need not stop.
  all_goals simp_all

/-! ## Until the end -/

/-- The next turn of the task: what it waits for is the end of a session, or nothing at all. -/
def nextTurn (c : Connection) : Move := if c.task.isReleasing then .released else .run

/-- A task that has not ended can go on. -/
lemma Doomed.isSome_step_nextTurn (h : c.Doomed) (htask : c.task ≠ .ended) :
    (c.step c.nextTurn).isSome = true := by
  have hpresent := h.present
  have hinterrupted := h.isInterrupted
  cases hc : c.task <;>
    simp_all [nextTurn, Task.isReleasing, step, mustStop, stopWaiting, resume, h.shutdown_eq]

/-- What a run does after a shutdown. -/
structure FadesOut (c last : Connection) (later : List Entry) : Prop where
  doomed : last.Doomed
  farewell_eq : later.flatMap (·.deeds) ++ last.farewell = c.farewell
  moves : ∀ e ∈ later, e.move.isForeign = true ∨ e.move = .run ∨ e.move = .released
  task : last.task = c.task ∨ last.task.isLeaving = true
  turns : later.countP (fun e => !e.move.isForeign) + last.task.turns ≤ c.task.turns

/-- **What a run does after a shutdown**, by induction on its moves: each of them takes something of
what is still to be done or leaves it as it is. -/
theorem Doomed.fadesOut {rest : List Move} {last : Connection} {later : List Entry} (h : c.Doomed)
    (hrest : c.history rest = some (last, later)) : FadesOut c last later := by
  induction rest generalizing c later with
  | nil =>
      cases hrest
      exact ⟨h, rfl, by simp, .inl rfl, by simp⟩
  | cons move rest ih =>
      obtain ⟨turn, after, hstep, hafter, hresult⟩ := exists_of_history_cons hrest
      cases hresult
      have hfades := h.fades hstep
      have hlast := ih hfades.doomed hafter
      constructor
      case doomed => exact hlast.doomed
      case farewell_eq =>
        rw [List.flatMap_cons, List.append_assoc, hlast.farewell_eq, hfades.farewell_eq]
      case moves =>
        intro e he
        rcases List.mem_cons.mp he with rfl | he
        · exact hfades.task.imp And.left And.left
        · exact hlast.moves e he
      case task =>
        rcases hlast.task with htask | htask
        · rcases hfades.task with ⟨-, hsame⟩ | ⟨-, hleaving, -⟩
          · exact .inl (htask.trans hsame)
          · exact .inr (htask ▸ hleaving)
        · exact .inr htask
      case turns =>
        have hturns := hlast.turns
        rw [List.countP_cons]
        rcases hfades.task with ⟨hforeign, hsame⟩ | ⟨hmove, -, hfewer⟩
        · rw [hsame] at hturns
          simpa [hforeign] using hturns
        · have hown : move.isForeign = false := by rcases hmove with rfl | rfl <;> rfl
          simp only [hown, Bool.not_false, if_true]
          omega

/-- A shutdown dooms a connection that is started. -/
lemma doomed_requestShutdown {config : ConnectionConfig} {hasDispatcher : Bool}
    {updater : Option CredentialUpdater} {listeners : ListenerSet Observer} {moves : List Move}
    {entries : List Entry}
    (hreach : history { ofConfig config hasDispatcher updater with listeners } moves
      = some (c, entries)) (hstarted : c.started = true) : c.requestShutdown.1.Doomed := by
  have hrun : run { ofConfig config hasDispatcher updater with listeners } moves
      = some (c, entries.flatMap (·.deeds)) := by
    rw [run_eq_history, hreach]
    rfl
  obtain ⟨happenings, sights, hlog, -⟩ := Course.exists_log_of_run hrun
  have hfreshStart := Course.fresh_ofConfig config hasDispatcher updater listeners
  have hsound : (Course.ofConnection c).Sound :=
    Course.sound_of_log (Course.sound_ofConfig config hasDispatcher updater listeners) hfreshStart
      hlog
  have hfresh : (Course.ofConnection c).Fresh := Course.fresh_of_log hfreshStart hlog
  have hpresent : c.task ≠ .absent := by
    intro habsent
    have hunstarted : c.started = false := hfresh.mpr ⟨rfl, habsent⟩
    rw [hstarted] at hunstarted
    cases hunstarted
  have hstep : c.step .shutdown = some c.requestShutdown := rfl
  obtain ⟨hsoundAfter, hfreshAfter⟩ := sound_of_step hsound hfresh hstep
  exact ⟨hsoundAfter, hfreshAfter, hpresent, rfl, rfl, rfl⟩

/-- **What a connection does after a shutdown.**  The shutdown may come in whatever wait the task
is, and everything else may go on happening:

* The state is shutting down, for good.
* The task no longer acts on anything that it was waiting for, but for the end of a session.  So it
  begins no connect, no stream, no read and no other sleep than one that it gives up at once.
* What it does is to disconnect the session that it has open and to tell each observer once that the
  stream is down, if one was established: that much and nothing else, in this order.  A session that
  is asked for its version is left to itself.
* It has at most three turns.  As long as it has not ended it can take another one, at once or when
  the session is disconnected; and when it has ended all of this has been done. -/
theorem fades_after_shutdown {config : ConnectionConfig} {hasDispatcher : Bool}
    {updater : Option CredentialUpdater} {listeners : ListenerSet Observer}
    {moves rest : List Move} {last : Connection} {entries later : List Entry}
    (hreach : history { ofConfig config hasDispatcher updater with listeners } moves
      = some (c, entries)) (hstarted : c.started = true)
    (hrest : c.requestShutdown.1.history rest = some (last, later)) :
    last.state = .shuttingDown
      ∧ (∀ e ∈ later, e.move.isForeign = true ∨ e.move = .run ∨ e.move = .released)
      ∧ (last.task = c.task ∨ last.task.isLeaving = true)
      ∧ later.flatMap (·.deeds) <+: c.farewell
      ∧ later.countP (fun e => !e.move.isForeign) ≤ 3
      ∧ (last.task = .ended ∧ later.flatMap (·.deeds) = c.farewell
        ∨ last.task ≠ .ended ∧ (last.step last.nextTurn).isSome = true) := by
  have hfades := (doomed_requestShutdown hreach hstarted).fadesOut hrest
  have hfarewell : later.flatMap (·.deeds) ++ last.farewell = c.farewell := hfades.farewell_eq
  have hturns : c.task.turns ≤ 3 := by
    cases c.task with
    | backingOff reusable => cases reusable <;> simp [Task.turns]
    | _ => simp [Task.turns]
  refine ⟨hfades.doomed.state_eq, hfades.moves, hfades.task, ⟨_, hfarewell⟩, ?_, ?_⟩
  · have hfewer := hfades.turns
    have htask : c.requestShutdown.1.task = c.task := rfl
    rw [htask] at hfewer
    omega
  · by_cases hended : last.task = .ended
    · have hestablished := hfades.doomed.established_eq_false hended (.inl rfl)
      rw [farewell_eq_nil hended rfl hestablished, List.append_nil] at hfarewell
      exact .inl ⟨hended, hfarewell⟩
    · exact .inr ⟨hended, hfades.doomed.isSome_step_nextTurn hended⟩

/-- A shutdown between two reads, and a reconnect and a late start after it. -/
theorem fades_after_shutdown_of_stream :
    let config : ConnectionConfig := .ofTarget "main" "review.example.com" "jenkins"
    let listeners : ListenerSet Observer := ⟨[⟨"bad", ⟨true⟩⟩, ⟨"good", ⟨false⟩⟩]⟩
    let first : Connection := { ofConfig config true none with listeners }
    let moves : List Move :=
      [.start, .run, .connected, .answered "gerrit version 3.4", .opened, .received [97, 10]]
    let rest : List Move := [.reconnect, .run, .start, .released]
    ∃ c entries last later, first.history moves = some (c, entries) ∧ c.started = true
      ∧ c.requestShutdown.1.history rest = some (last, later) ∧ last.task = .ended
      ∧ last.state = .shuttingDown
      ∧ later.flatMap (·.deeds)
        = [.call (.disconnect 0), .tell "bad" .down, .tell "good" .down] := by
  intro config listeners first moves rest
  obtain ⟨c, entries, last, later, hreach, hstarted, hrest, hended, hfarewell⟩ :
      ∃ c entries last later, first.history moves = some (c, entries) ∧ c.started = true
        ∧ c.requestShutdown.1.history rest = some (last, later) ∧ last.task = .ended
        ∧ c.farewell = [.call (.disconnect 0), .tell "bad" .down, .tell "good" .down] :=
    ⟨_, _, _, _, rfl, rfl, rfl, rfl, rfl⟩
  obtain ⟨hstate, -, -, -, -, hend⟩ := fades_after_shutdown hreach hstarted hrest
  rcases hend with ⟨-, hdeeds⟩ | ⟨hnot, -⟩
  · exact ⟨c, entries, last, later, hreach, hstarted, hrest, hended, hstate,
      hdeeds.trans hfarewell⟩
  · exact absurd hended hnot

end Connection

end ReviewStream
