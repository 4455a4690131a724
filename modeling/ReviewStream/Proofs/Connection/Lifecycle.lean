import ReviewStream.Proofs.Connection.Hearing
import ReviewStream.Proofs.Connection.Points

/-!
# The life of a connection, as it can be seen

Two things can be seen from outside: the state, at any moment, and what observers are told.  Both
depend on where the task stands with its stream, and what others do leaves that alone.

* `Standing`: where the task stands with its stream, and what that means for what can be seen.
* `Course.Keeps`: what can be seen of one happening fits what was before and what is after it.
* **`Course.lifecycle`**: the state takes a path, and every observer hears of each stream once when
  it is established and once when it is down.
-/

namespace ReviewStream

open Connection (Move)

/-! ## Standings -/

/-- What the task is busy with, as far as it shows. -/
inductive Standing where
  | idle
  | trying
  /-- The state is connected, and nobody has been told. -/
  | entered
  | up
  | closing
  /-- The state is disconnected again, and nobody has been told. -/
  | mourning
  | crashed
deriving DecidableEq

/-- What holds of the state and of the flag that tells whether a stream is established. -/
def Standing.Fits : Standing → ConnectionState → Bool → Prop
  | .idle, s, flag => s ≠ .connected ∧ flag = false
  | .trying, s, flag => (s = .connecting ∨ s = .shuttingDown) ∧ flag = false
  | .entered, s, flag => (s = .connected ∨ s = .shuttingDown) ∧ flag = false
  | .up, _, flag => flag = true
  | .closing, _, _ => True
  | .mourning, s, _ => s = .disconnected ∨ s = .shuttingDown
  | .crashed, _, _ => False

/-- Which of them may follow while neither the state nor the flag changes. -/
def Standing.mayBecome : Standing → Standing → Bool
  | .idle, .idle | .trying, .trying | .trying, .idle | .trying, .closing | .up, .up | .up, .closing
  | .closing, .closing => true
  | _, _ => false

/-- A shutdown may begin at any time. -/
lemma Standing.Fits.condemn {standing : Standing} {s : ConnectionState} {flag : Bool}
    (h : standing.Fits s flag) : standing.Fits .shuttingDown flag := by
  cases standing <;> simp_all [Standing.Fits]

lemma Standing.Fits.of_mayBecome {standing later : Standing} {s : ConnectionState} {flag : Bool}
    (h : standing.Fits s flag) (hlater : standing.mayBecome later = true) : later.Fits s flag := by
  cases standing <;> cases later <;> simp [mayBecome] at hlater
  case trying.idle =>
    obtain ⟨rfl | rfl, hflag⟩ := h
    · exact ⟨by simp, hflag⟩
    · exact ⟨by simp, hflag⟩
  case idle.idle | trying.trying | up.up => exact h
  case trying.closing | up.closing | closing.closing => trivial

/-- What the task is busy with while it waits. -/
def Task.standing : Task → Standing
  | .connecting | .querying _ | .opening _ => .trying
  | .reading _ | .pausing _ => .up
  | .releasing _ _ => .closing
  | _ => .idle

lemma Task.mayBecome_standing (task : Task) : task.standing.mayBecome task.standing = true := by
  cases task <;> rfl

/-- What the task is busy with. -/
def Point.standing (task : Task) : Point → Standing
  | .waiting => task.standing
  | .loop _ | .choose _ | .reuse _ | .leave _ | .connect | .prepare => .idle
  | .refresh | .attempt | .arm _ | .guard _ | .ask _ | .establish _ => .trying
  | .announce _ => .entered
  | .read _ => .up
  | .unguard _ _ | .disarm _ _ | .judge _ _ _ | .report _ _ => .closing
  | .mourn _ _ => .mourning
  | .crashed => .crashed

/-- Whether an observer stays among the observers. -/
def Happening.spares (id : String) : Happening → Bool
  | .strike (.dismiss other) => other ≠ id
  | .strike .clear => false
  | _ => true

namespace Course

variable {r last : Course} {c : Connection} {p : Point} {x : Happening}
  {happenings : List Happening} {sights : List Sight} {turn : Course × List Deed}
  {crashing : String → Bool}

/-- What the task is busy with. -/
def standing (r : Course) : Standing := r.point.standing r.connection.task

/-- How many calls of an observer are due: one while nobody has been told of a stream that has just
been established. -/
def due (r : Course) : Nat :=
  match r.point with
  | .announce _ => 1
  | _ => 0

/-- What holds at every moment. -/
def Sound (r : Course) : Prop := r.standing.Fits r.connection.state r.connection.established

/-- What can be seen of one happening fits what was before and what is after it. -/
structure Keeps (r : Course) (turn : Course × List Deed) : Prop where
  sound : turn.1.Sound
  mayFollow : r.connection.state.MayFollow turn.1.connection.state
  opening : ∀ session command, Deed.call (.openStream session command) ∈ turn.2 →
    turn.1.connection.state = .connecting ∨ turn.1.connection.state = .shuttingDown
  alternates : ∀ id, r.connection.listeners.Informs id →
    Alternates r.connection.established (heard id turn.2) turn.1.connection.established
  counted : ∀ id, r.connection.listeners.Informs id →
    r.due + r.connection.state.entries [turn.1.connection.state]
      = (heard id turn.2).count .established + turn.1.due

/-! ## Quiet happenings -/

/-- Nothing that can be seen changes, and no stream is opened. -/
structure Quiet (r : Course) (turn : Course × List Deed) : Prop where
  state_eq : turn.1.connection.state = r.connection.state
  established_eq : turn.1.connection.established = r.connection.established
  mayBecome : r.standing.mayBecome turn.1.standing = true
  hidden : ∀ d ∈ turn.2, d.isHidden = true

lemma heard_of_hidden (id : String) {deeds : List Deed} (h : ∀ d ∈ deeds, d.isHidden = true) :
    heard id deeds = [] := by
  refine List.filterMap_eq_nil_iff.mpr fun d hd => ?_
  cases d with
  | tell x e => exact absurd (h _ hd) (by simp [Deed.isHidden])
  | _ => rfl

lemma due_of_mayBecome {later : Course} (h : r.standing.mayBecome later.standing = true) :
    r.due = 0 ∧ later.due = 0 := by
  have hdue : ∀ {r : Course}, r.standing ≠ .entered → r.due = 0 := by
    rintro ⟨c, p⟩ hentered
    cases p <;> first | rfl | exact absurd rfl hentered
  constructor
  · refine hdue fun hentered => ?_
    rw [hentered] at h
    cases h
  · refine hdue fun hentered => ?_
    rw [hentered] at h
    cases hbefore : r.standing <;> rw [hbefore] at h <;> cases h

/-- A happening in which nobody is told anything, no stream is opened and connected is not
entered. -/
lemma keeps_of_hidden
    (hfits : turn.1.Sound)
    (hestablished : turn.1.connection.established = r.connection.established)
    (hfollow : r.connection.state.MayFollow turn.1.connection.state)
    (hentries : r.connection.state.entries [turn.1.connection.state] = 0)
    (hdue : turn.1.due = r.due) (hhidden : ∀ d ∈ turn.2, d.isHidden = true) : r.Keeps turn := by
  have hheard : ∀ id, heard id turn.2 = [] := fun id => heard_of_hidden id hhidden
  constructor
  case sound => exact hfits
  case mayFollow => exact hfollow
  case opening =>
    intro session command hmem
    exact absurd (hhidden _ hmem) (by simp [Deed.isHidden])
  case alternates =>
    intro id _
    rw [hheard, hestablished]
    exact .nil _
  case counted =>
    intro id _
    rw [hheard, hentries, hdue, Nat.add_zero, List.count_nil, Nat.zero_add]

lemma entries_self (s : ConnectionState) : s.entries [s] = 0 := by
  cases s <;> simp [ConnectionState.entries]

lemma Sound.keeps_of_quiet (h : r.Sound) (hquiet : r.Quiet turn) : r.Keeps turn := by
  obtain ⟨hstate, hestablished, hstanding, hhidden⟩ := hquiet
  obtain ⟨hbefore, hafter⟩ := due_of_mayBecome hstanding
  refine keeps_of_hidden ?_ hestablished ?_ ?_ (hafter.trans hbefore.symm) hhidden
  · rw [Sound, hstate, hestablished]
    exact Standing.Fits.of_mayBecome h hstanding
  · rw [hstate]
    exact ConnectionState.mayFollow_refl _
  · rw [hstate]
    exact entries_self _

/-! ## Points at which something shows -/

lemma entries_of_ne_connected (s : ConnectionState) {next : ConnectionState}
    (h : next ≠ .connected) : s.entries [next] = 0 := by
  simp [ConnectionState.entries, h]

lemma keeps_reuse {session : Nat} (h : Sound ⟨c, .reuse session⟩) :
    Keeps ⟨c, .reuse session⟩ (c.pass crashing (.reuse session)) := by
  have ⟨hstate, hflag⟩ := h
  rw [Connection.pass]
  split_ifs with hchange
  · have hfollow := ConnectionState.mayFollow_enter_connecting hstate
    rw [ConnectionState.enter_of_mayChange _ hchange] at hfollow
    exact keeps_of_hidden ⟨.inl rfl, hflag⟩ rfl hfollow
      (entries_of_ne_connected _ (by simp)) rfl (by simp)
  · exact h.keeps_of_quiet ⟨rfl, rfl, rfl, by simp⟩

lemma keeps_prepare (h : Sound ⟨c, .prepare⟩) :
    Keeps ⟨c, .prepare⟩ (c.pass crashing .prepare) := by
  have ⟨hstate, hflag⟩ := h
  have hentered : c.state.enter .connecting = .connecting
      ∨ c.state.enter .connecting = .shuttingDown := by
    cases c.state <;> simp [ConnectionState.enter, ConnectionState.mayChange]
  refine keeps_of_hidden ⟨hentered, hflag⟩ rfl
    (ConnectionState.mayFollow_enter_connecting hstate) (entries_of_ne_connected _ ?_) rfl
    (by simp [Connection.pass])
  rintro (hconnected : c.state.enter .connecting = .connected)
  rcases hentered with heq | heq <;> rw [heq] at hconnected <;> cases hconnected

/-- A stream is opened while the state is connecting, unless a shutdown has begun. -/
lemma keeps_ask {session : Nat} (h : Sound ⟨c, .ask session⟩) :
    Keeps ⟨c, .ask session⟩ (c.pass crashing (.ask session)) := by
  rw [Connection.pass]
  split_ifs
  · exact h.keeps_of_quiet ⟨rfl, rfl, rfl, by simp⟩
  · constructor
    case sound => exact h
    case mayFollow => exact ConnectionState.mayFollow_refl _
    case opening => exact fun _ _ _ => h.1
    case alternates => exact fun id _ => .nil _
    case counted => simp [ConnectionState.entries, heard, due]

/-- Connected is entered, and one call of every observer is due. -/
lemma keeps_establish {session : Nat} (h : Sound ⟨c, .establish session⟩) :
    Keeps ⟨c, .establish session⟩ (c.pass crashing (.establish session)) := by
  have ⟨hstate, hflag⟩ := h
  rw [Connection.pass]
  split_ifs with hchange
  · have hconnecting : c.state = .connecting := by
      refine hstate.resolve_right ?_
      rintro (hdown : c.state = .shuttingDown)
      rw [hdown] at hchange
      cases hchange
    constructor
    case sound => exact ⟨.inl rfl, hflag⟩
    case mayFollow =>
      rw [hconnecting]
      simp [ConnectionState.MayFollow]
    case opening => simp
    case alternates => exact fun id _ => .nil _
    case counted =>
      simp [ConnectionState.entries, heard, due, hconnecting]
  · exact h.keeps_of_quiet ⟨rfl, rfl, rfl, by simp⟩

/-- The call that is due is made, whoever crashes. -/
lemma keeps_announce {session : Nat} (h : Sound ⟨c, .announce session⟩) :
    Keeps ⟨c, .announce session⟩ (c.pass crashing (.announce session)) := by
  have ⟨hstate, hflag⟩ := h
  rw [Connection.pass_announce]
  constructor
  case sound => exact rfl
  case mayFollow => exact ConnectionState.mayFollow_refl _
  case opening =>
    intro session command hmem
    obtain ⟨observer, hx⟩ := Connection.exists_eq_of_mem_tellAll hmem
    cases hx
  case alternates =>
    intro id hinforms
    rw [heard_tellAll hinforms, hflag]
    exact .established (.nil _)
  case counted =>
    intro id hinforms
    rw [heard_tellAll hinforms]
    simp [ConnectionState.entries, due]

lemma keeps_report {reusable : Option Nat} {backOff : Bool} :
    Keeps ⟨c, .report reusable backOff⟩ (c.pass crashing (.report reusable backOff)) := by
  have hentered : c.state.enter .disconnected = .disconnected
      ∨ c.state.enter .disconnected = .shuttingDown := by
    cases c.state <;> simp [ConnectionState.enter, ConnectionState.mayChange]
  refine keeps_of_hidden hentered rfl (ConnectionState.mayFollow_enter_disconnected _)
    (entries_of_ne_connected _ ?_) rfl (by simp [Connection.pass])
  rintro (hconnected : c.state.enter .disconnected = .connected)
  rcases hentered with heq | heq <;> rw [heq] at hconnected <;> cases hconnected

/-- Observers are told that a stream is down, whoever crashes, if it was established. -/
lemma keeps_mourn {reusable : Option Nat} {backOff : Bool}
    (h : Sound ⟨c, .mourn reusable backOff⟩) :
    Keeps ⟨c, .mourn reusable backOff⟩ (c.pass crashing (.mourn reusable backOff)) := by
  set told : List Deed := if c.established then c.tellAll .down else [] with htold
  set next : Course :=
    if backOff || !c.established then
      ⟨{ c with established := false, task := .backingOff reusable }, .waiting⟩
    else ⟨{ c with established := false }, .loop reusable⟩ with hnext
  have hpass : c.pass crashing (.mourn reusable backOff) = (next, told) :=
    Connection.pass_mourn crashing c reusable backOff
  -- What is next is idle, and nobody has been told anything but what is heard.
  have hstanding : next.standing = .idle := by
    rw [hnext]
    split_ifs <;> rfl
  have hstate : next.connection.state = c.state := by
    rw [hnext]
    split_ifs <;> rfl
  have hflag : next.connection.established = false := by
    rw [hnext]
    split_ifs <;> rfl
  have hheard : ∀ id, c.listeners.Informs id →
      heard id told = if c.established then [.down] else [] := by
    intro id hinforms
    rw [htold]
    split_ifs
    · exact heard_tellAll hinforms _
    · rfl
  rw [hpass]
  constructor
  case sound =>
    rw [Sound, hstanding, hstate, hflag]
    rcases h with heq | heq
    · exact ⟨by rw [show c.state = _ from heq]; simp, rfl⟩
    · exact ⟨by rw [show c.state = _ from heq]; simp, rfl⟩
  case mayFollow =>
    rw [hstate]
    exact ConnectionState.mayFollow_refl _
  case opening =>
    intro session command hmem
    rw [htold] at hmem
    split_ifs at hmem
    · obtain ⟨observer, hx⟩ := Connection.exists_eq_of_mem_tellAll hmem
      cases hx
    · exact absurd hmem List.not_mem_nil
  case alternates =>
    intro id hinforms
    rw [hheard id hinforms, hflag]
    cases c.established with
    | true => exact .down (.nil _)
    | false => exact .nil _
  case counted =>
    have hdue : next.due = 0 := by
      rw [hnext]
      split_ifs <;> rfl
    intro id hinforms
    rw [hheard id hinforms, hstate, hdue, entries_self]
    cases c.established <;> rfl

/-! ## What the task does -/

lemma keeps_pass (h : Sound ⟨c, p⟩) (crashing : String → Bool) :
    Keeps ⟨c, p⟩ (c.pass crashing p) := by
  cases p with
  | waiting =>
      exact h.keeps_of_quiet ⟨rfl, rfl, Task.mayBecome_standing _, by simp [Connection.pass]⟩
  | crashed => exact False.elim h
  | loop reusable =>
      refine h.keeps_of_quiet ⟨rfl, rfl, ?_, by simp [Connection.pass]⟩
      cases hstop : c.shutdown <;> simp only [Connection.pass, hstop] <;> rfl
  | choose reusable =>
      cases reusable with
      | none => exact h.keeps_of_quiet ⟨rfl, rfl, rfl, by simp [Connection.pass]⟩
      | some session =>
          rw [Connection.pass]
          split_ifs
          · exact h.keeps_of_quiet ⟨rfl, rfl, rfl, by simp⟩
          · exact h.keeps_of_quiet ⟨rfl, rfl, rfl, by simp [Deed.isHidden]⟩
  | reuse session => exact keeps_reuse h
  | leave reusable =>
      cases reusable with
      | none => exact h.keeps_of_quiet ⟨rfl, rfl, rfl, by simp [Connection.pass]⟩
      | some session =>
          exact h.keeps_of_quiet ⟨rfl, rfl, rfl, by simp [Connection.pass, Deed.isHidden]⟩
  | connect =>
      refine h.keeps_of_quiet ⟨rfl, rfl, ?_, by simp [Connection.pass]⟩
      cases hstop : c.shutdown <;> simp only [Connection.pass, hstop] <;> rfl
  | prepare => exact keeps_prepare h
  | refresh =>
      have hquiet : Quiet ⟨c, .refresh⟩ (⟨c.refresh.1, .attempt⟩, c.refresh.2) := by
        rw [Connection.refresh_eq]
        refine ⟨rfl, rfl, rfl, fun d hd => ?_⟩
        rw [Connection.eq_of_mem_refresh hd]
        rfl
      exact h.keeps_of_quiet hquiet
  | attempt =>
      rw [Connection.pass]
      split_ifs
      · exact h.keeps_of_quiet ⟨rfl, rfl, rfl, by simp⟩
      · exact h.keeps_of_quiet ⟨rfl, rfl, rfl, by simp [Deed.isHidden]⟩
  | arm session => exact h.keeps_of_quiet ⟨rfl, rfl, rfl, by simp [Connection.pass]⟩
  | guard session =>
      refine h.keeps_of_quiet ⟨rfl, rfl, rfl, ?_⟩
      cases htimeout : c.config.watchdogTimeout? <;> simp [Connection.pass, htimeout, Deed.isHidden]
  | ask session => exact keeps_ask h
  | establish session => exact keeps_establish h
  | announce session => exact keeps_announce h
  | read session => exact h.keeps_of_quiet ⟨rfl, rfl, rfl, by simp [Connection.pass]⟩
  | unguard session e =>
      refine h.keeps_of_quiet ⟨rfl, rfl, rfl, fun d hd => ?_⟩
      rw [Connection.eq_of_mem_stopWatchdog hd]
      rfl
  | disarm session e => exact h.keeps_of_quiet ⟨rfl, rfl, rfl, by simp [Connection.pass]⟩
  | judge session e cancelled =>
      simp only [Connection.pass]
      split_ifs
      · exact h.keeps_of_quiet ⟨rfl, rfl, rfl, by simp⟩
      · exact h.keeps_of_quiet ⟨rfl, rfl, rfl, by simp [Deed.isHidden]⟩
  | report reusable backOff => exact keeps_report
  | mourn reusable backOff => exact keeps_mourn h

/-- Nothing shows when the task goes on after a wait. -/
lemma quiet_of_wakes {move : Move} (h : c.Wakes move turn) : Quiet ⟨c, .waiting⟩ turn := by
  have hstanding : standing ⟨c, .waiting⟩ = c.task.standing := rfl
  cases h with
  | stopWaiting htask _ | stopReading htask _ =>
      rcases htask with htask | htask <;>
        exact ⟨rfl, rfl, by rw [hstanding, htask]; rfl, by simp⟩
  | begin htask | stopQuerying htask _ | stopRejecting htask _ | stopBackingOff htask _
  | stopOpening htask _ | refused htask _ | answered htask _ | opened htask _ | unopened htask _
  | finished htask _ | broken htask _ | rejected htask _ | released htask | discarded htask
  | closed htask | retried htask _ | backedOff htask _ | paused htask _ =>
      exact ⟨rfl, rfl, by rw [hstanding, htask]; rfl, by simp⟩
  | connected htask _ | unanswered htask _ =>
      exact ⟨rfl, rfl, by rw [hstanding, htask]; rfl, by simp [Deed.isHidden]⟩
  | received htask _ =>
      refine ⟨rfl, rfl, by rw [hstanding, htask]; rfl, fun d hd => ?_⟩
      obtain ⟨line, rfl⟩ | rfl := Connection.eq_of_mem_take hd
      · rfl
      · rfl

/-! ## What others do -/

/-- A happening of which the task knows nothing. -/
lemma Sound.keeps_of_aside (h : r.Sound) (hpoint : turn.1.point = r.point)
    (htask : turn.1.connection.task = r.connection.task)
    (hstate : turn.1.connection.state = r.connection.state)
    (hestablished : turn.1.connection.established = r.connection.established)
    (hhidden : ∀ d ∈ turn.2, d.isHidden = true) : r.Keeps turn := by
  have hstanding : turn.1.standing = r.standing := by rw [standing, standing, hpoint, htask]
  refine keeps_of_hidden ?_ hestablished ?_ ?_ ?_ hhidden
  · rw [Sound, hstanding, hstate, hestablished]
    exact h
  · rw [hstate]
    exact ConnectionState.mayFollow_refl _
  · rw [hstate]
    exact entries_self _
  · rw [due, due, hpoint]

lemma keeps_strike {s : Strike} (h : r.Sound) (hfresh : r.Fresh) :
    r.Keeps (⟨(r.connection.struck s).1, r.point⟩, (r.connection.struck s).2) := by
  cases s with
  | launch =>
      simp only [Connection.struck]
      split_ifs with hstarted
      · exact h.keeps_of_aside rfl rfl rfl rfl (by simp)
      · obtain ⟨hpoint, htask⟩ := hfresh.mp (Bool.eq_false_iff.mpr hstarted)
        have hstanding : r.standing = .idle := by
          rw [standing, hpoint, htask]
          rfl
        refine h.keeps_of_quiet ⟨rfl, rfl, ?_, by simp⟩
        rw [hstanding, standing, hpoint]
        rfl
  | condemn =>
      exact keeps_of_hidden (Standing.Fits.condemn h) rfl (ConnectionState.mayFollow_shuttingDown _)
        (entries_of_ne_connected _ (by simp [Connection.struck])) rfl (by simp [Connection.struck])
  | unwatch =>
      refine h.keeps_of_aside rfl rfl rfl rfl fun d hd => ?_
      rw [Connection.eq_of_mem_stopWatchdog hd]
      rfl
  | _ => exact h.keeps_of_aside rfl rfl rfl rfl (by simp [Connection.struck])

/-- **What can be seen of one happening.** -/
theorem keeps_step (h : r.Sound) (hfresh : r.Fresh) (hstep : r.step x = some turn) :
    r.Keeps turn := by
  cases x with
  | pass crashing =>
      obtain rfl := Option.some.inj hstep
      exact keeps_pass h crashing
  | wake move =>
      obtain ⟨c, p⟩ := r
      cases p <;> try cases hstep
      exact h.keeps_of_quiet (quiet_of_wakes (Connection.wake_spec hstep))
  | strike s =>
      obtain rfl := Option.some.inj hstep
      exact keeps_strike h hfresh

/-- Observers stay what they are unless somebody removes them. -/
lemma informs_step {id : String} (h : r.connection.listeners.Informs id)
    (hspares : x.spares id = true) (hstep : r.step x = some turn) :
    turn.1.connection.listeners.Informs id := by
  cases x with
  | pass crashing =>
      obtain rfl := Option.some.inj hstep
      rw [(pass_frame _ _ _).2.1]
      exact h
  | wake move =>
      obtain ⟨c, p⟩ := r
      cases p <;> try cases hstep
      have hwakes : c.Wakes move turn := Connection.wake_spec hstep
      cases hwakes <;> exact h
  | strike s =>
      obtain rfl := Option.some.inj hstep
      cases s with
      | launch => split_ifs <;> exact h
      | enroll y => exact h.add y
      | dismiss other => exact h.remove (of_decide_eq_true hspares)
      | clear => cases hspares
      | _ => exact h

/-! ## Runs -/

/-- What holds at every moment of a run. -/
theorem sound_of_log (h : r.Sound) (hfresh : r.Fresh)
    (hlog : r.log happenings = some (last, sights)) : last.Sound := by
  have hlast := log_invariant (I := fun r => r.Sound ∧ r.Fresh)
    (fun _ _ _ hr hstep => ⟨(keeps_step hr.1 hr.2 hstep).sound, hr.2.step hstep⟩) ⟨h, hfresh⟩ hlog
  exact hlast.1

/-- What can be seen of a run fits what was before and what is after it. -/
structure Shows (id : String) (r last : Course) (sights : List Sight) : Prop where
  path : (r.connection.state :: sights.map (·.state)).IsChain ConnectionState.MayFollow
  opening : ∀ x ∈ sights, ∀ session command,
    Deed.call (.openStream session command) ∈ x.deeds →
      x.state = .connecting ∨ x.state = .shuttingDown
  alternates : Alternates r.connection.established (heard id (sights.flatMap (·.deeds)))
    last.connection.established
  counted : r.due + r.connection.state.entries (sights.map (·.state))
    = (heard id (sights.flatMap (·.deeds))).count .established + last.due

/-- **What can be seen of a run**, by induction on what happens in it. -/
theorem shows_of_log {id : String} (h : r.Sound) (hfresh : r.Fresh)
    (hinforms : r.connection.listeners.Informs id)
    (hspares : ∀ x ∈ happenings, x.spares id = true)
    (hlog : r.log happenings = some (last, sights)) : Shows id r last sights := by
  induction happenings generalizing r sights with
  | nil =>
      cases hlog
      exact ⟨.singleton _, by simp, .nil _, by simp [ConnectionState.entries, heard]⟩
  | cons x happenings ih =>
      obtain ⟨turn, after, hstep, hafter, hresult⟩ := exists_of_log_cons hlog
      cases hresult
      have hkeeps := keeps_step h hfresh hstep
      have hshows := ih hkeeps.sound (hfresh.step hstep)
        (informs_step hinforms (hspares x List.mem_cons_self) hstep)
        (fun y hy => hspares y (List.mem_cons_of_mem _ hy)) hafter
      constructor
      case path => exact .cons_cons hkeeps.mayFollow hshows.path
      case opening =>
        intro y hy
        rcases List.mem_cons.mp hy with rfl | hy
        · exact hkeeps.opening
        · exact hshows.opening y hy
      case alternates =>
        rw [List.flatMap_cons, heard_append]
        exact (hkeeps.alternates id hinforms).append hshows.alternates
      case counted =>
        have hfirst := hkeeps.counted id hinforms
        have hrest := hshows.counted
        simp only [List.map_cons, List.flatMap_cons, heard_append, List.count_append,
          ConnectionState.entries] at hfirst hrest ⊢
        omega

/-- A connection that nobody has started. -/
lemma sound_ofConfig (config : ConnectionConfig) (hasDispatcher : Bool)
    (updater : Option CredentialUpdater) (listeners : ListenerSet Observer) :
    (ofConnection { Connection.ofConfig config hasDispatcher updater with listeners }).Sound :=
  ⟨by simp [ofConnection, Connection.ofConfig], rfl⟩

/-- **The life of a connection.**  In every run, whatever the server answers, whenever others strike
and whichever observers crash:

* Connected is entered from connecting alone and left to disconnected or for good, and shutting down
  is never left.
* A stream is opened, on a new session or on one that was kept, while the state is connecting; only
  a shutdown that has just begun may have come before it.
* An observer hears of streams that are established and go down in turn, of one for each time that
  connected is entered, and as often of the one as of the other once the task has ended. -/
theorem lifecycle {config : ConnectionConfig} {hasDispatcher : Bool}
    {updater : Option CredentialUpdater} {listeners : ListenerSet Observer} {id : String}
    (hinforms : listeners.Informs id) (hspares : ∀ x ∈ happenings, x.spares id = true)
    (hlog : (ofConnection { Connection.ofConfig config hasDispatcher updater with
      listeners }).log happenings = some (last, sights)) :
    (ConnectionState.disconnected :: sights.map (·.state)).IsChain ConnectionState.MayFollow
      ∧ (∀ x ∈ sights, ∀ session command,
        Deed.call (.openStream session command) ∈ x.deeds →
          x.state = .connecting ∨ x.state = .shuttingDown)
      ∧ (∃ n, heard id (sights.flatMap (·.deeds))
        = rounds n ++ begun last.connection.established)
      ∧ ConnectionState.disconnected.entries (sights.map (·.state))
        = (heard id (sights.flatMap (·.deeds))).count .established + last.due
      ∧ last.point ≠ .crashed
      ∧ (last.HasEnded → (heard id (sights.flatMap (·.deeds))).count .established
        = (heard id (sights.flatMap (·.deeds))).count .down) := by
  have hsound := sound_ofConfig config hasDispatcher updater listeners
  have hfresh := fresh_ofConfig config hasDispatcher updater listeners
  have hlast : last.Sound := sound_of_log hsound hfresh hlog
  have hshows := shows_of_log hsound hfresh hinforms hspares hlog
  obtain ⟨n, hrounds⟩ := hshows.alternates.exists_rounds
  have hheard : heard id (sights.flatMap (·.deeds))
      = rounds n ++ begun last.connection.established := hrounds
  refine ⟨hshows.path, hshows.opening, ⟨n, hheard⟩, ?_, ?_, ?_⟩
  · have hcounted := hshows.counted
    rwa [ofConnection, due, Nat.zero_add] at hcounted
  · intro hcrashed
    rw [Sound, standing, hcrashed] at hlast
    exact hlast
  · rintro ⟨hpoint, htask⟩
    rw [Sound, standing, hpoint, Point.standing, htask] at hlast
    rw [hheard, hlast.2, List.count_append, List.count_append, count_rounds]
    rfl

/-- Two streams on one session, the second one ended by a shutdown, and an observer before the other
that crashes whenever it is told something. -/
theorem lifecycle_of_two_streams :
    let config : ConnectionConfig := .ofTarget "main" "review.example.com" "jenkins"
    let listeners : ListenerSet Observer := ⟨[⟨"bad", ⟨true⟩⟩, ⟨"good", ⟨false⟩⟩]⟩
    let c : Connection := { Connection.ofConfig config true none with listeners }
    let pass : Happening := .pass (· == "bad")
    let happenings : List Happening :=
      [.strike .launch, .wake .run, pass, pass, pass, pass, pass, pass, .wake .connected,
        .wake (.answered "gerrit version 3.4"), pass, pass, pass, .wake .opened, pass, pass, pass,
        .wake (.received [97, 10]), .wake .slept, .wake .finished, pass, pass, pass, pass, pass,
        pass, pass, pass, pass, pass, pass, .wake .opened, pass, pass, pass, .strike .condemn,
        .strike .cancel, .wake .run, pass, .strike .unwatch, pass, pass, .wake .released, pass,
        pass, pass, pass, .strike .detach]
    ∃ last sights, (ofConnection c).log happenings = some (last, sights) ∧ last.HasEnded
      ∧ heard "good" (sights.flatMap (·.deeds)) = [.established, .down, .established, .down]
      ∧ ConnectionState.disconnected.entries (sights.map (·.state)) = 2
      ∧ (ConnectionState.disconnected :: sights.map (·.state)).IsChain
        ConnectionState.MayFollow := by
  intro config listeners c pass happenings
  have hinforms : listeners.Informs "good" := ⟨by decide, by decide⟩
  have hspares : ∀ x ∈ happenings, x.spares "good" = true := by
    simp [happenings, pass, Happening.spares]
  obtain ⟨last, sights, hlog, hended, hheard⟩ :
      ∃ last sights, (ofConnection c).log happenings = some (last, sights) ∧ last.HasEnded
        ∧ heard "good" (sights.flatMap (·.deeds)) = [.established, .down, .established, .down] :=
    ⟨_, _, rfl, ⟨rfl, rfl⟩, rfl⟩
  obtain ⟨hpath, -, -, hentries, -, -⟩ := lifecycle hinforms hspares hlog
  refine ⟨last, sights, hlog, hended, hheard, ?_, hpath⟩
  rw [hentries, hheard, due, hended.1]
  rfl

end Course

end ReviewStream
