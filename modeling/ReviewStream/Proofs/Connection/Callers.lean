import ReviewStream.Proofs.Connection.Sessions

/-!
# Callers who start and shut down

A start and a shutdown are calls of several accesses each, and many of them may be under way at
once.  A start looks for a shutdown, claims the connection, makes the task and then leaves it to be
taken over; a shutdown condemns, cancels, stops the watchdog and then takes the task over, and waits
for its end if it was asked to and found it.  There is one task to be taken over, and one who takes
it.

* `Caller`: how far a call has come.
* `Scene.log`: a run of a connection and its callers.
* `Scene.log_start`, `Scene.log_shutdown`: a call that is not disturbed does what `start?` and
  `requestShutdown` do.
* **`Scene.over_of_left`**: whoever takes the task over and waits for it returns when all is over.
-/

namespace ReviewStream

/-! ## Calls -/

/-- How far a call has come: a start from its look for a shutdown on, and a shutdown from its look
at the state on.  A constructor in the progressive form is about to do what it says. -/
inductive Caller where
  | looking
  | claiming
  | spawning
  | storing
  | started
  | refused (e : ConnectionError)
  | condemning (join : Bool)
  | cancelling (join : Bool)
  | unwatching (join : Bool)
  | taking (join : Bool)
  /-- Waits for the end of the task. -/
  | joining
  /-- A shutdown that has returned, and whether it has taken the task over. -/
  | left (took : Bool)
deriving DecidableEq

namespace Caller

/-- What a call does to the connection. -/
def strike? : Caller → Option Strike
  | .spawning => some .launch
  | .condemning _ => some .condemn
  | .cancelling _ => some .cancel
  | .unwatching _ => some .unwatch
  | .taking _ => some .detach
  | _ => none

/-- Whether there is a task to be taken over after a call has gone on. -/
def leaves (handle : Bool) : Caller → Bool
  | .storing => true
  | .taking _ => false
  | _ => handle

/-- Whether a start has claimed the connection and not yet left a task to be taken over. -/
def isPending : Caller → Bool
  | .spawning | .storing => true
  | _ => false

/-- Whether a start is about to start the task or has done so. -/
def mayStart : Caller → Bool
  | .claiming | .spawning | .storing | .started => true
  | _ => false

/-- Whether a shutdown has cancelled everything. -/
def hasCancelled : Caller → Bool
  | .unwatching _ | .taking _ | .joining | .left _ => true
  | _ => false

/-- Whether a shutdown has taken the task over. -/
def took : Caller → Bool
  | .joining => true
  | .left took => took
  | _ => false

end Caller

/-- Whether something is done by starts and shutdowns alone. -/
def Happening.isCalled : Happening → Bool
  | .strike .launch | .strike .condemn | .strike .cancel | .strike .detach => true
  | _ => false

/-- Whether the task has come to its end. -/
def Course.ended (r : Course) : Bool :=
  match r.point, r.connection.task with
  | .waiting, .ended => true
  | _, _ => false

lemma Course.ended_iff {r : Course} : r.ended = true ↔ r.HasEnded := by
  obtain ⟨c, p⟩ := r
  constructor
  · intro h
    unfold Course.ended at h
    split at h
    · exact ⟨‹_›, ‹_›⟩
    · cases h
  · rintro ⟨hpoint, htask⟩
    obtain rfl : p = .waiting := hpoint
    have hended : c.task = .ended := htask
    simp only [Course.ended, hended]

/-! ## Scenes -/

/-- What has happened to a connection, and what was done in it. -/
abbrev Story := List (Happening × List Deed)

/-- A connection and its callers. -/
structure Scene where
  course : Course
  /-- Whether a start has claimed the connection. -/
  claimed : Bool
  /-- Whether there is a task to be taken over. -/
  handle : Bool
  callers : List Caller

/-- What can be done next: somebody calls for a start or a shutdown, a call goes on, or the task,
the watchdog, the server or another caller does something. -/
inductive Act where
  | start
  | shutdown (join : Bool)
  | go (i : Nat)
  | other (x : Happening)

namespace Scene

/-- A connection that nobody has called. -/
def ofConnection (c : Connection) : Scene := ⟨.ofConnection c, false, false, []⟩

/-- Where a call comes to next; none if it waits or has returned. -/
def next? (s : Scene) : Caller → Option Caller
  | .looking =>
    let c := s.course.connection
    some (if c.shutdown then .refused (.shutDown c.name) else .claiming)
  | .claiming =>
    some (if s.claimed then .refused (.alreadyStarted s.course.connection.name) else .spawning)
  | .spawning => some .storing
  | .storing => some .started
  | .condemning join => some (.cancelling join)
  | .cancelling join => some (.unwatching join)
  | .unwatching join => some (.taking join)
  | .taking join => some (if join && s.handle then .joining else .left s.handle)
  | .joining => if s.course.ended then some (.left true) else none
  | .started | .refused _ | .left _ => none

/-- Something happens to the connection. -/
def happen (s : Scene) (x : Happening) : Option (Scene × Story) :=
  (s.course.step x).map fun (course, deeds) => ({ s with course }, [(x, deeds)])

/-- What an act leads to; none if it cannot be done now. -/
def step (s : Scene) : Act → Option (Scene × Story)
  | .start => some ({ s with callers := s.callers ++ [.looking] }, [])
  | .shutdown join => some ({ s with callers := s.callers ++ [.condemning join] }, [])
  | .go i => do
    let caller ← s.callers[i]?
    let next ← s.next? caller
    let s := { s with
      claimed := s.claimed || caller == .claiming
      handle := caller.leaves s.handle
      callers := s.callers.set i next }
    match caller.strike? with
    | some strike => s.happen (.strike strike)
    | none => some (s, [])
  | .other x => if x.isCalled then none else s.happen x

/-- A sequence of acts, with all that happens in them. -/
def log (s : Scene) : List Act → Option (Scene × Story)
  | [] => some (s, [])
  | act :: rest => do
    let (next, story) ← s.step act
    let (last, later) ← next.log rest
    return (last, story ++ later)

variable {s last : Scene} {act : Act} {turn : Scene × Story} {i : Nat} {story : Story}
  {acts : List Act}

lemma happen_spec {x : Happening} (h : s.happen x = some turn) :
    ∃ made, s.course.step x = some made ∧ turn = ({ s with course := made.1 }, [(x, made.2)]) := by
  obtain ⟨made, hmade, rfl⟩ := Option.map_eq_some_iff.mp h
  exact ⟨made, hmade, rfl⟩

/-- What it is that a call goes on. -/
lemma go_spec (h : s.step (.go i) = some turn) :
    ∃ caller next, s.callers[i]? = some caller ∧ s.next? caller = some next
      ∧ turn.1.callers = s.callers.set i next
      ∧ turn.1.claimed = (s.claimed || caller == .claiming)
      ∧ turn.1.handle = caller.leaves s.handle
      ∧ (caller.strike? = none ∧ turn.1.course = s.course ∧ turn.2 = []
        ∨ ∃ strike made, caller.strike? = some strike
          ∧ s.course.step (.strike strike) = some made ∧ turn.1.course = made.1
          ∧ turn.2 = [(.strike strike, made.2)]) := by
  obtain ⟨caller, hcaller, hafter⟩ := Option.bind_eq_some_iff.mp h
  obtain ⟨next, hnext, hturn⟩ := Option.bind_eq_some_iff.mp hafter
  refine ⟨caller, next, hcaller, hnext, ?_⟩
  cases hstrike : caller.strike? with
  | none =>
      rw [hstrike] at hturn
      cases hturn
      exact ⟨rfl, rfl, rfl, .inl ⟨rfl, rfl, rfl⟩⟩
  | some strike =>
      rw [hstrike] at hturn
      obtain ⟨made, hmade, rfl⟩ := happen_spec hturn
      exact ⟨rfl, rfl, rfl, .inr ⟨strike, made, rfl, hmade, rfl, rfl⟩⟩

/-- An act leaves the connection alone, or one thing happens to it. -/
lemma course_of_step (h : s.step act = some turn) :
    turn.1.course = s.course ∧ turn.2 = []
      ∨ ∃ x made, s.course.step x = some made ∧ turn.1.course = made.1
        ∧ turn.2 = [(x, made.2)] := by
  cases act with
  | start | shutdown =>
      cases h
      exact .inl ⟨rfl, rfl⟩
  | go i =>
      obtain ⟨caller, next, -, -, -, -, -, ⟨-, hcourse, hstory⟩ | ⟨strike, made, -, hmade⟩⟩ :=
        go_spec h
      · exact .inl ⟨hcourse, hstory⟩
      · exact .inr ⟨_, made, hmade⟩
  | other x =>
      rw [step] at h
      split_ifs at h
      obtain ⟨made, hmade, rfl⟩ := happen_spec h
      exact .inr ⟨x, made, hmade, rfl, rfl⟩

/-- A run is a sequence of acts. -/
lemma isRun : IsRun Scene.step log [] (· ++ ·) := .ofLists (fun _ => rfl) fun _ _ _ => rfl

/-- To the connection a run with callers is a run. -/
lemma exists_log_of_log (hlog : s.log acts = some (last, story)) :
    ∃ sights, s.course.log (story.map (·.1)) = some (last.course, sights)
      ∧ sights.flatMap (·.deeds) = story.flatMap (·.2) := by
  induction acts generalizing s story with
  | nil =>
      cases hlog
      exact ⟨[], rfl, rfl⟩
  | cons act acts ih =>
      obtain ⟨next, first, later, hstep, hrest, rfl⟩ := isRun.exists_of_cons hlog
      obtain ⟨sights, hsights, hdeeds⟩ := ih hrest
      obtain ⟨hcourse, rfl⟩ | ⟨x, made, hmade, hcourse, rfl⟩ := course_of_step hstep
      · rw [hcourse] at hsights
        exact ⟨sights, hsights, hdeeds⟩
      · rw [hcourse] at hsights
        refine ⟨_, Course.log_cons hmade hsights, ?_⟩
        rw [List.flatMap_cons, hdeeds]
        rfl

/-! ## Calls that are not disturbed -/

/-- No start is under way: what its callers know of the connection is what it knows itself. -/
structure IsAtRest (s : Scene) : Prop where
  claimed_eq : s.claimed = s.course.connection.started
  handle_eq : s.handle = s.course.connection.joinable

lemma isAtRest_ofConfig (config : ConnectionConfig) (hasDispatcher : Bool)
    (updater : Option CredentialUpdater) (listeners : ListenerSet Observer) :
    (ofConnection
      { Connection.ofConfig config hasDispatcher updater with listeners }).IsAtRest :=
  ⟨rfl, rfl⟩

variable {r : Course} {claimed handle : Bool} {callers : List Caller} {caller next : Caller}

lemma step_shutdown (join : Bool) :
    s.step (.shutdown join) = some ({ s with callers := s.callers ++ [.condemning join] }, []) :=
  rfl

lemma step_start : s.step .start = some ({ s with callers := s.callers ++ [.looking] }, []) := rfl

/-- The last of all callers goes on and only looks at what is shared. -/
lemma step_last (hnext : next? ⟨r, claimed, handle, callers ++ [caller]⟩ caller = some next)
    (hstrike : caller.strike? = none) :
    step ⟨r, claimed, handle, callers ++ [caller]⟩ (.go callers.length)
      = some (⟨r, claimed || caller == .claiming, caller.leaves handle, callers ++ [next]⟩,
        []) := by
  simp [step, hnext, hstrike]

/-- The last of all callers goes on and does something to the connection. -/
lemma step_last_strike {strike : Strike}
    (hnext : next? ⟨r, claimed, handle, callers ++ [caller]⟩ caller = some next)
    (hstrike : caller.strike? = some strike) :
    step ⟨r, claimed, handle, callers ++ [caller]⟩ (.go callers.length)
      = some (⟨⟨(r.connection.struck strike).1, r.point⟩, claimed || caller == .claiming,
        caller.leaves handle, callers ++ [next]⟩,
        [(.strike strike, (r.connection.struck strike).2)]) := by
  simp [step, hnext, hstrike, happen, Course.step]

/-- A start that is not disturbed succeeds when the connection starts. -/
theorem log_start {c : Connection} (hrest : s.IsAtRest)
    (hstart : s.course.connection.start? = .ok c) :
    let go : Act := .go s.callers.length
    s.log [.start, go, go, go, go]
      = some (⟨⟨c, s.course.point⟩, true, true, s.callers ++ [.started]⟩,
        [(.strike .launch, [])]) := by
  intro go
  obtain ⟨⟨d, p⟩, claimed, handle, callers⟩ := s
  change d.start? = .ok c at hstart
  rw [Connection.start?] at hstart
  split_ifs at hstart with hshutdown hstarted
  cases hstart
  obtain rfl : claimed = false := hrest.claimed_eq.trans (Bool.eq_false_iff.mpr hstarted)
  have hlook : step ⟨⟨d, p⟩, false, handle, callers ++ [.looking]⟩ (.go callers.length)
      = some (⟨⟨d, p⟩, false, handle, callers ++ [.claiming]⟩, []) :=
    step_last (by simp [next?, hshutdown]) rfl
  have hclaim : step ⟨⟨d, p⟩, false, handle, callers ++ [.claiming]⟩ (.go callers.length)
      = some (⟨⟨d, p⟩, true, handle, callers ++ [.spawning]⟩, []) :=
    step_last rfl rfl
  have hspawn : step ⟨⟨d, p⟩, true, handle, callers ++ [.spawning]⟩ (.go callers.length)
      = some (⟨⟨(d.struck .launch).1, p⟩, true, handle, callers ++ [.storing]⟩,
        [(.strike .launch, [])]) :=
    step_last_strike rfl rfl
  have hstore : step ⟨⟨(d.struck .launch).1, p⟩, true, handle, callers ++ [.storing]⟩
      (.go callers.length)
      = some (⟨⟨(d.struck .launch).1, p⟩, true, true, callers ++ [.started]⟩, []) :=
    step_last rfl rfl
  have hlaunch : (d.struck .launch).1
      = { d with started := true, joinable := true, task := .spawned } := if_neg hstarted
  rw [hlaunch] at hspawn hstore
  simp only [go, log, step_start, hlook, hclaim, hspawn, hstore, Option.bind_eq_bind,
    Option.bind_some]
  rfl

/-- A start that is not disturbed is refused when the connection does not start. -/
theorem log_start_of_error {e : ConnectionError} (hrest : s.IsAtRest)
    (hstart : s.course.connection.start? = .error e) :
    ∃ n, s.log (.start :: .replicate n (.go s.callers.length))
      = some ({ s with callers := s.callers ++ [.refused e] }, []) := by
  obtain ⟨⟨d, p⟩, claimed, handle, callers⟩ := s
  change d.start? = .error e at hstart
  rw [Connection.start?] at hstart
  split_ifs at hstart with hshutdown hstarted
  · cases hstart
    have hlook : step ⟨⟨d, p⟩, claimed, handle, callers ++ [.looking]⟩ (.go callers.length)
        = some (⟨⟨d, p⟩, claimed, handle, callers ++ [.refused (.shutDown d.name)]⟩, []) := by
      have hnext : next? ⟨⟨d, p⟩, claimed, handle, callers ++ [.looking]⟩ .looking
          = some (.refused (.shutDown d.name)) := by simp [next?, hshutdown]
      rw [step_last hnext rfl]
      simp [Caller.leaves]
    refine ⟨1, ?_⟩
    simp only [List.replicate, log, step_start, hlook, Option.bind_eq_bind, Option.bind_some]
    rfl
  · cases hstart
    obtain rfl : claimed = true := hrest.claimed_eq.trans hstarted
    have hlook : step ⟨⟨d, p⟩, true, handle, callers ++ [.looking]⟩ (.go callers.length)
        = some (⟨⟨d, p⟩, true, handle, callers ++ [.claiming]⟩, []) :=
      step_last (by simp [next?, hshutdown]) rfl
    have hclaim : step ⟨⟨d, p⟩, true, handle, callers ++ [.claiming]⟩ (.go callers.length)
        = some (⟨⟨d, p⟩, true, handle, callers ++ [.refused (.alreadyStarted d.name)]⟩, []) :=
      step_last rfl rfl
    refine ⟨2, ?_⟩
    simp only [List.replicate, log, step_start, hlook, hclaim, Option.bind_eq_bind,
      Option.bind_some]
    rfl

/-- A shutdown that is not disturbed shuts the connection down, and waits if it has been asked to
and the task could be waited for. -/
theorem log_shutdown (hrest : s.IsAtRest) (join : Bool) :
    let c := s.course.connection
    let go : Act := .go s.callers.length
    s.log [.shutdown join, go, go, go, go]
      = some (⟨⟨c.requestShutdown.1, s.course.point⟩, s.claimed, false,
          s.callers ++ [if join && c.joinable then .joining else .left c.joinable]⟩,
        [(.strike .condemn, []), (.strike .cancel, []), (.strike .unwatch, c.requestShutdown.2),
          (.strike .detach, [])]) := by
  obtain ⟨⟨d, p⟩, claimed, handle, callers⟩ := s
  obtain rfl : handle = d.joinable := hrest.handle_eq
  intro c go
  have hgo (r : Course) (handle : Bool) (caller next : Caller) (strike : Strike)
      (hother : (caller == .claiming) = false) (hstrike : caller.strike? = some strike)
      (hnext : next? ⟨r, claimed, handle, callers ++ [caller]⟩ caller = some next) :
      step ⟨r, claimed, handle, callers ++ [caller]⟩ go
        = some (⟨⟨(r.connection.struck strike).1, r.point⟩, claimed, caller.leaves handle,
          callers ++ [next]⟩, [(.strike strike, (r.connection.struck strike).2)]) := by
    rw [step_last_strike hnext hstrike, hother, Bool.or_false]
  have hcondemn (r : Course) (handle : Bool) :=
    hgo r handle (.condemning join) (.cancelling join) .condemn rfl rfl rfl
  have hcancel (r : Course) (handle : Bool) :=
    hgo r handle (.cancelling join) (.unwatching join) .cancel rfl rfl rfl
  have hunwatch (r : Course) (handle : Bool) :=
    hgo r handle (.unwatching join) (.taking join) .unwatch rfl rfl rfl
  have htake (r : Course) (handle : Bool) :=
    hgo r handle (.taking join) (if join && handle then .joining else .left handle) .detach rfl rfl
      rfl
  simp only [log, step_shutdown, hcondemn, hcancel, hunwatch, htake, Option.bind_eq_bind,
    Option.bind_some]
  rfl

/-! ## Who has claimed, stored and taken what -/

/-- When one member of a list is replaced, the members of some kind are as many as before, but for
that one. -/
lemma countP_set_add {α : Type} {p : α → Bool} {l : List α} {i : Nat} {a b : α}
    (h : l[i]? = some a) :
    (l.set i b).countP p + (p a).toNat = l.countP p + (p b).toNat := by
  induction l generalizing i with
  | nil => cases h
  | cons x l ih =>
      cases i with
      | zero =>
          obtain rfl : x = a := Option.some.inj h
          rw [List.set_cons_zero, List.countP_cons, List.countP_cons]
          cases p x <;> cases p b <;> simp
      | succ i =>
          have htail := ih (i := i) h
          rw [List.set_cons_succ, List.countP_cons, List.countP_cons]
          omega

/-- What the callers have done is what can be seen of the connection: it is claimed once, the task
is there to be taken over or has been taken over once, and it has been cancelled. -/
structure Books (s : Scene) : Prop where
  fresh : s.course.Fresh
  claimed : s.callers.countP (·.isPending) + s.callers.countP (· == .started) = s.claimed.toNat
  stored : s.callers.countP (· == .started) = s.handle.toNat + s.callers.countP (·.took)
  cancelled : ∀ caller ∈ s.callers, caller.hasCancelled = true →
    s.course.connection.shutdown = true

lemma books_ofConfig (config : ConnectionConfig) (hasDispatcher : Bool)
    (updater : Option CredentialUpdater) (listeners : ListenerSet Observer) :
    (ofConnection { Connection.ofConfig config hasDispatcher updater with listeners }).Books where
  fresh := Course.fresh_ofConfig config hasDispatcher updater listeners
  claimed := rfl
  stored := rfl
  cancelled := by simp [ofConnection]

lemma fresh_of_step (h : s.course.Fresh) (hstep : s.step act = some turn) :
    turn.1.course.Fresh := by
  obtain ⟨hcourse, -⟩ | ⟨x, made, hmade, hcourse, -⟩ := course_of_step hstep
  · rwa [hcourse]
  · rw [hcourse]
    exact h.step hmade

lemma shutdown_of_step (h : s.course.connection.shutdown = true)
    (hstep : s.step act = some turn) : turn.1.course.connection.shutdown = true := by
  obtain ⟨hcourse, -⟩ | ⟨x, made, hmade, hcourse, -⟩ := course_of_step hstep
  · rwa [hcourse]
  · rw [hcourse]
    exact Course.shutdown_of_step h hmade

/-- Another call is there. -/
lemma Books.call (h : s.Books) {caller : Caller}
    (hcaller : caller = .looking ∨ ∃ join, caller = .condemning join) :
    Books { s with callers := s.callers ++ [caller] } := by
  have hnew : caller.isPending = false ∧ (caller == .started) = false ∧ caller.took = false
      ∧ caller.hasCancelled = false := by
    rcases hcaller with rfl | ⟨join, rfl⟩ <;> exact ⟨rfl, rfl, rfl, rfl⟩
  obtain ⟨hpending, hstarted, htook, hcancelled⟩ := hnew
  constructor
  case fresh => exact h.fresh
  case claimed => simpa [List.countP_append, hpending, hstarted] using h.claimed
  case stored => simpa [List.countP_append, hstarted, htook] using h.stored
  case cancelled =>
    intro other hother hflag
    rcases List.mem_append.mp hother with hother | hother
    · exact h.cancelled other hother hflag
    · rw [List.mem_singleton.mp hother, hcancelled] at hflag
      cases hflag

/-- Whoever has cancelled is not undone. -/
lemma Books.cancelled_go (h : s.Books) (hstep : s.step (.go i) = some turn) :
    ∀ caller ∈ turn.1.callers, caller.hasCancelled = true →
      turn.1.course.connection.shutdown = true := by
  obtain ⟨caller, next, hcaller, hnext, hcallers, -, -, hcourse⟩ := go_spec hstep
  intro other hother hflag
  rw [hcallers] at hother
  rcases List.mem_or_eq_of_mem_set hother with hother | rfl
  · exact shutdown_of_step (h.cancelled other hother hflag) hstep
  by_cases hbefore : caller.hasCancelled = true
  · exact shutdown_of_step (h.cancelled caller (List.mem_of_getElem? hcaller) hbefore) hstep
  obtain ⟨join, rfl⟩ : ∃ join, caller = .cancelling join := by
    cases caller with
    | cancelling join => exact ⟨join, rfl⟩
    | looking | claiming =>
        simp only [next?, Option.some.injEq] at hnext
        rw [← hnext] at hflag
        split_ifs at hflag <;> cases hflag
    | spawning | storing | condemning =>
        cases hnext
        cases hflag
    | started | refused => cases hnext
    | unwatching | taking | joining | left => exact absurd rfl hbefore
  obtain ⟨hstrike, -⟩ | ⟨strike, made, hstrike, hmade, hafter, -⟩ := hcourse
  · cases hstrike
  · cases hstrike
    rw [hafter, ← Option.some.inj hmade]

/-- A call claims the connection when it has not been claimed. -/
lemma balance_of_next {caller next : Caller} (h : s.next? caller = some next) :
    caller.isPending.toNat + (caller == .started).toNat + (s.claimed || caller == .claiming).toNat
      = next.isPending.toNat + (next == .started).toNat + s.claimed.toNat := by
  cases caller with
  | looking | taking =>
      obtain rfl := Option.some.inj h
      split_ifs <;> cases s.claimed <;> rfl
  | claiming =>
      obtain rfl := Option.some.inj h
      cases s.claimed <;> rfl
  | joining =>
      rw [next?] at h
      split_ifs at h
      cases h
      cases s.claimed <;> rfl
  | spawning | storing | condemning | cancelling | unwatching =>
      cases h
      cases s.claimed <;> rfl
  | started | refused | left => cases h

/-- A call leaves the task to be taken over, takes it over, or does neither. -/
lemma slot_of_next {caller next : Caller} (h : s.next? caller = some next) :
    caller = .storing ∧ next = .started
      ∨ (caller == .started) = (next == .started)
        ∧ s.handle.toNat + caller.took.toNat
          = (caller.leaves s.handle).toNat + next.took.toNat := by
  cases caller with
  | looking | claiming =>
      right
      obtain rfl := Option.some.inj h
      split_ifs <;> exact ⟨rfl, rfl⟩
  | taking join =>
      right
      obtain rfl := Option.some.inj h
      cases join <;> cases s.handle <;> exact ⟨rfl, rfl⟩
  | joining =>
      right
      rw [next?] at h
      split_ifs at h
      cases h
      exact ⟨rfl, rfl⟩
  | storing =>
      cases h
      exact .inl ⟨rfl, rfl⟩
  | spawning | condemning | cancelling | unwatching =>
      cases h
      exact .inr ⟨rfl, rfl⟩
  | started | refused | left => cases h

/-- **The books are kept**, whatever is done. -/
theorem Books.step (h : s.Books) (hstep : s.step act = some turn) : turn.1.Books := by
  cases act with
  | start =>
      cases hstep
      exact h.call (.inl rfl)
  | shutdown join =>
      cases hstep
      exact h.call (.inr ⟨join, rfl⟩)
  | other x =>
      have hafter := fresh_of_step h.fresh hstep
      have hshutdown (hflag : s.course.connection.shutdown = true) := shutdown_of_step hflag hstep
      rw [Scene.step] at hstep
      split_ifs at hstep
      obtain ⟨made, -, rfl⟩ := happen_spec hstep
      exact ⟨hafter, h.claimed, h.stored, fun caller hmem hflag =>
        hshutdown (h.cancelled caller hmem hflag)⟩
  | go i =>
      obtain ⟨caller, next, hcaller, hnext, hcallers, hclaimed, hhandle, -⟩ := go_spec hstep
      have hpending := countP_set_add (p := (·.isPending)) (b := next) hcaller
      have hstarted := countP_set_add (p := (· == .started)) (b := next) hcaller
      have htook := countP_set_add (p := (·.took)) (b := next) hcaller
      rw [← hcallers] at hpending hstarted htook
      have hbalance := balance_of_next hnext
      have hbooks := h.claimed
      have hslot := h.stored
      constructor
      case fresh => exact fresh_of_step h.fresh hstep
      case claimed =>
        rw [hclaimed]
        omega
      case stored =>
        rw [hhandle]
        rcases slot_of_next hnext with ⟨rfl, rfl⟩ | ⟨hsame, hkept⟩
        · -- Nobody else has claimed the connection, so there is no other task.
          have hone := Bool.toNat_le s.claimed
          have hfewer : turn.1.callers.countP (·.isPending) + 1 = s.callers.countP (·.isPending) :=
            hpending
          have hmore : turn.1.callers.countP (· == .started)
              = s.callers.countP (· == .started) + 1 := hstarted
          have hsame : turn.1.callers.countP (·.took) = s.callers.countP (·.took) := htook
          rw [hmore, hsame, Caller.leaves, Bool.toNat_true]
          omega
        · rw [hsame] at hstarted
          omega
      case cancelled => exact h.cancelled_go hstep

lemma books_of_log (h : s.Books) (hlog : s.log acts = some (last, story)) : last.Books :=
  isRun.invariant (fun _ _ _ _ _ hbooks hstep => hbooks.step hstep) h hlog

/-- The task is there to be taken over when a start has left it and no shutdown has taken it. -/
lemma Books.handle_eq_true (h : s.Books) (hstarted : .started ∈ s.callers)
    (hfirst : ∀ caller ∈ s.callers, caller.took = false) : s.handle = true := by
  have hsome : 0 < s.callers.countP (· == .started) :=
    List.countP_pos_iff.mpr ⟨_, hstarted, beq_self_eq_true _⟩
  have hnone : s.callers.countP (·.took) = 0 :=
    List.countP_eq_zero.mpr fun caller hmem => Bool.eq_false_iff.mp (hfirst caller hmem)
  have hslot := h.stored
  cases hhandle : s.handle with
  | true => rfl
  | false =>
      rw [hhandle, hnone, Bool.toNat_false] at hslot
      omega

/-! ## After a shutdown -/

/-- Where a call comes from: it was there, it has gone on, or it is new. -/
lemma caller_of_step (hstep : s.step act = some turn) {after : Caller}
    (hafter : turn.1.callers[i]? = some after) :
    s.callers[i]? = some after
      ∨ (∃ caller, s.callers[i]? = some caller ∧ s.next? caller = some after)
      ∨ i = s.callers.length ∧ after.mayStart = false := by
  have hnew : ∀ caller : Caller, caller.mayStart = false →
      (s.callers ++ [caller])[i]? = some after →
      s.callers[i]? = some after ∨ i = s.callers.length ∧ after.mayStart = false := by
    intro caller hlooks hmem
    rcases Nat.lt_trichotomy i s.callers.length with hlt | rfl | hgt
    · rw [List.getElem?_append_left hlt] at hmem
      exact .inl hmem
    · rw [List.getElem?_concat_length] at hmem
      cases hmem
      exact .inr ⟨rfl, hlooks⟩
    · rw [List.getElem?_eq_none (by simpa using Nat.succ_le_of_lt hgt)] at hmem
      cases hmem
  cases act with
  | start =>
      cases hstep
      exact (hnew .looking rfl hafter).imp_right .inr
  | shutdown join =>
      cases hstep
      exact (hnew (.condemning join) rfl hafter).imp_right .inr
  | other x =>
      rw [step] at hstep
      split_ifs at hstep
      obtain ⟨made, -, rfl⟩ := happen_spec hstep
      exact .inl hafter
  | go j =>
      obtain ⟨caller, next, hcaller, hnext, hcallers, -⟩ := go_spec hstep
      rw [hcallers] at hafter
      by_cases hsame : j = i
      · subst hsame
        have hlt : j < s.callers.length := (List.getElem?_eq_some_iff.mp hcaller).1
        rw [List.getElem?_set_self hlt] at hafter
        cases hafter
        exact .inr (.inl ⟨caller, hcaller, hnext⟩)
      · rw [List.getElem?_set_ne hsame] at hafter
        exact .inl hafter

/-- Everything has been cancelled, and no call from some number on starts the task. -/
structure Bars (n : Nat) (s : Scene) : Prop where
  shutdown : s.course.connection.shutdown = true
  late : ∀ i caller, n ≤ i → s.callers[i]? = some caller → caller.mayStart = false

/-- Once everything has been cancelled, a start does not come past its first look. -/
lemma mayStart_of_next {caller next : Caller} (hshutdown : s.course.connection.shutdown = true)
    (h : s.next? caller = some next) (hcaller : caller.mayStart = false) :
    next.mayStart = false := by
  cases caller with
  | looking =>
      obtain rfl := Option.some.inj h
      rw [if_pos hshutdown]
      rfl
  | taking join =>
      obtain rfl := Option.some.inj h
      split_ifs <;> rfl
  | joining =>
      rw [next?] at h
      split_ifs at h
      cases h
      rfl
  | condemning | cancelling | unwatching =>
      cases h
      rfl
  | refused | left => cases h
  | claiming | spawning | storing | started => cases hcaller

lemma Bars.step {n : Nat} (h : s.Bars n) (hstep : s.step act = some turn) : turn.1.Bars n where
  shutdown := shutdown_of_step h.shutdown hstep
  late := by
    intro i after hle hafter
    rcases caller_of_step hstep hafter with hbefore | ⟨caller, hbefore, hnext⟩ | ⟨-, hnew⟩
    · exact h.late i after hle hbefore
    · exact mayStart_of_next h.shutdown hnext (h.late i caller hle hbefore)
    · exact hnew

lemma bars_of_cancelled (h : s.Books) {caller : Caller} (hmem : caller ∈ s.callers)
    (hflag : caller.hasCancelled = true) : s.Bars s.callers.length where
  shutdown := h.cancelled caller hmem hflag
  late := by
    intro i late hle hlate
    rw [List.getElem?_eq_none hle] at hlate
    cases hlate

/-! ## Waiting for the end -/

lemma ended_of_step (h : s.course.HasEnded) (hfresh : s.course.Fresh)
    (hstep : s.step act = some turn) :
    turn.1.course.HasEnded ∧ ∀ d ∈ turn.2.flatMap (·.2), d = .unwatch := by
  obtain ⟨hcourse, hstory⟩ | ⟨x, made, hmade, hcourse, hstory⟩ := course_of_step hstep
  · rw [hcourse, hstory]
    exact ⟨h, by simp⟩
  · rw [hcourse, hstory, List.flatMap_singleton]
    exact h.step hfresh hmade

/-- After the end of the task nothing is done any more, but that others may stop the watchdog. -/
lemma ended_of_log (h : s.course.HasEnded) (hfresh : s.course.Fresh)
    (hlog : s.log acts = some (last, story)) :
    last.course.HasEnded ∧ ∀ d ∈ story.flatMap (·.2), d = .unwatch := by
  have hlast := isRun.induction
    (I := fun s _ story => s.course.Fresh ∧ s.course.HasEnded
      ∧ ∀ d ∈ story.flatMap (·.2), d = .unwatch)
    (fun s _ story act t now _ ⟨hfresh, hended, hstory⟩ hstep => by
      obtain ⟨hafter, hnow⟩ := ended_of_step hended hfresh hstep
      rw [List.flatMap_append]
      exact ⟨fresh_of_step hfresh hstep, hafter, List.forall_mem_append.mpr ⟨hstory, hnow⟩⟩)
    ⟨hfresh, h, by simp⟩ hlog
  exact hlast.2

/-- A call waits for the end of the task, or it has returned and the task has ended. -/
structure Waits (i : Nat) (s : Scene) : Prop where
  fresh : s.course.Fresh
  lt_length : i < s.callers.length
  joins : ∀ caller, s.callers[i]? = some caller →
    caller = .joining ∨ caller = .left true ∧ s.course.HasEnded

lemma length_le_of_step (hstep : s.step act = some turn) :
    s.callers.length ≤ turn.1.callers.length := by
  cases act with
  | start | shutdown =>
      cases hstep
      simp
  | other x =>
      rw [step] at hstep
      split_ifs at hstep
      obtain ⟨made, -, rfl⟩ := happen_spec hstep
      exact Nat.le_refl _
  | go i =>
      obtain ⟨caller, next, -, -, hcallers, -⟩ := go_spec hstep
      exact Nat.le_of_eq (by rw [hcallers, List.length_set])

lemma Waits.step (h : s.Waits i) (hstep : s.step act = some turn) : turn.1.Waits i where
  fresh := fresh_of_step h.fresh hstep
  lt_length := Nat.lt_of_lt_of_le h.lt_length (length_le_of_step hstep)
  joins := by
    intro after hafter
    rcases caller_of_step hstep hafter with hbefore | ⟨caller, hbefore, hnext⟩ | ⟨hlength, -⟩
    · exact (h.joins after hbefore).imp_right fun ⟨hleft, hended⟩ =>
        ⟨hleft, (ended_of_step hended h.fresh hstep).1⟩
    · rcases h.joins caller hbefore with rfl | ⟨rfl, -⟩
      · rw [next?] at hnext
        split_ifs at hnext with hended
        cases hnext
        exact .inr ⟨rfl, (ended_of_step (Course.ended_iff.mp hended) h.fresh hstep).1⟩
      · cases hnext
    · exact absurd hlength (Nat.ne_of_lt h.lt_length)

/-- A shutdown that finds the task and is to wait for it waits for it. -/
lemma waits_of_taking (h : s.Books) (hcaller : s.callers[i]? = some (.taking true))
    (hhandle : s.handle = true) (hstep : s.step (.go i) = some turn) : turn.1.Waits i := by
  have hlt : i < s.callers.length := (List.getElem?_eq_some_iff.mp hcaller).1
  refine ⟨fresh_of_step h.fresh hstep, Nat.lt_of_lt_of_le hlt (length_le_of_step hstep), ?_⟩
  obtain ⟨caller, next, hbefore, hnext, hcallers, -⟩ := go_spec hstep
  obtain rfl := Option.some.inj (hcaller.symm.trans hbefore)
  intro after hafter
  rw [hcallers, List.getElem?_set_self hlt] at hafter
  cases hafter
  rw [next?, hhandle] at hnext
  exact .inl (Option.some.inj hnext).symm

/-- All is over: the task has ended, its sessions have been disconnected, and nothing is done any
more, whatever callers do, but that the watchdog may be stopped. -/
structure Over (start : Course) (past : Story) (s : Scene) : Prop where
  ended : s.course.HasEnded
  released : ∃ left : Option Nat,
    handed (past.flatMap (·.2)) = ReviewStream.released (past.flatMap (·.2)) ++ left.toList
      ∧ (left.isSome ↔ start.Abandons (past.map (·.1)))
  quiet : ∀ rest last more, s.log rest = some (last, more) →
    last.course.HasEnded ∧ ∀ d ∈ more.flatMap (·.2), d = .unwatch

/-- **Whoever takes the task over and waits for it returns when all is over.**  Whatever the callers
of a connection do, in any order and with other things happening in between:

* At most one start succeeds.
* None succeeds that begins after a shutdown has cancelled everything.
* A shutdown is to wait for the task, and comes to take it over when a start has succeeded and no
  other shutdown has taken it: when this shutdown has returned, all is over.

A session that was forgotten while the task waited for its version is left over even then. -/
theorem over_of_left {config : ConnectionConfig} {hasDispatcher : Bool}
    {updater : Option CredentialUpdater} {listeners : ListenerSet Observer}
    (hlog : (ofConnection { Connection.ofConfig config hasDispatcher updater with
      listeners }).log acts = some (s, story)) :
    s.callers.count .started ≤ 1
      ∧ ((∃ caller ∈ s.callers, caller.hasCancelled = true) → ∀ rest last more,
          s.log rest = some (last, more) → ∀ i, s.callers.length ≤ i →
            last.callers[i]? ≠ some .started)
      ∧ ∀ i, s.callers[i]? = some (.taking true) → .started ∈ s.callers →
          (∀ caller ∈ s.callers, caller.took = false) →
          ∀ rest last more, s.log (.go i :: rest) = some (last, more) →
            (∃ took, last.callers[i]? = some (.left took)) →
            Over (.ofConnection { Connection.ofConfig config hasDispatcher updater with listeners })
              (story ++ more) last := by
  have hbooks : s.Books :=
    books_of_log (books_ofConfig config hasDispatcher updater listeners) hlog
  refine ⟨?_, ?_, ?_⟩
  · have hone := Bool.toNat_le s.claimed
    have hclaimed := hbooks.claimed
    rw [List.count]
    omega
  · rintro ⟨caller, hmem, hflag⟩ rest last more hrest i hle hstarted
    have hbars : last.Bars s.callers.length :=
      isRun.invariant (fun _ _ _ _ _ hbars hstep => hbars.step hstep)
        (bars_of_cancelled hbooks hmem hflag) hrest
    cases hbars.late i .started hle hstarted
  · intro i hcaller hstarted hfirst rest last more hrest hleft
    have hhandle := hbooks.handle_eq_true hstarted hfirst
    obtain ⟨next, first, later, hstep, hafter, -⟩ := isRun.exists_of_cons hrest
    have hwaits : last.Waits i :=
      isRun.invariant (fun _ _ _ _ _ hwaits hstep => hwaits.step hstep)
        (waits_of_taking hbooks hcaller hhandle hstep) hafter
    obtain ⟨took, hlast⟩ := hleft
    have hended : last.course.HasEnded := by
      rcases hwaits.joins _ hlast with hjoining | ⟨-, hended⟩
      · cases hjoining
      · exact hended
    constructor
    case ended => exact hended
    case released =>
      obtain ⟨sights, hcourse, hdeeds⟩ := exists_log_of_log (isRun.append_eq_some hlog hrest)
      obtain ⟨-, -, left, hbalance, habandons⟩ := Course.released_eq hcourse
      rw [hdeeds] at hbalance
      exact ⟨left, hbalance, habandons hended⟩
    case quiet => exact fun rest final done hdone => ended_of_log hended hwaits.fresh hdone

/-- A shutdown in the middle of a stream waits until the stream is given up. -/
theorem over_of_left_in_stream :
    let config : ConnectionConfig := .ofTarget "main" "review.example.com" "jenkins"
    let c : Connection := { Connection.ofConfig config true none with listeners := .empty }
    let pass : Act := .other (.pass fun _ => false)
    let wake (move : Connection.Move) : Act := .other (.wake move)
    let acts : List Act :=
      [.start, .go 0, .go 0, .go 0, .go 0, wake .run, pass, pass, pass, pass, pass, pass,
        wake .connected, wake (.answered "gerrit version 3.4"), pass, pass, pass, wake .opened,
        pass, pass, pass, .shutdown true, .go 1, .go 1, .go 1]
    let rest : List Act :=
      [wake .run, pass, pass, pass, wake .released, pass, pass, pass, pass, .go 1]
    ∃ s story last more, (ofConnection c).log acts = some (s, story)
      ∧ s.callers = [.started, .taking true]
      ∧ s.log (.go 1 :: rest) = some (last, more) ∧ last.callers = [.started, .left true]
      ∧ Over (.ofConnection c) (story ++ more) last := by
  intro config c pass wake acts rest
  obtain ⟨s, story, last, more, hlog, hbefore, hrest, hafter⟩ :
      ∃ s story last more, (ofConnection c).log acts = some (s, story)
        ∧ s.callers = [.started, .taking true]
        ∧ s.log (.go 1 :: rest) = some (last, more) ∧ last.callers = [.started, .left true] :=
    ⟨_, _, _, _, rfl, rfl, rfl, rfl⟩
  obtain ⟨-, -, hover⟩ := over_of_left hlog
  refine ⟨s, story, last, more, hlog, hbefore, hrest, hafter, hover 1 ?_ ?_ ?_ rest last more hrest
    ⟨true, ?_⟩⟩
  · rw [hbefore]
    rfl
  · simp [hbefore]
  · simp [hbefore, Caller.took]
  · rw [hafter]
    rfl

/-- **A second shutdown does not wait.**  A shutdown that need not wait takes the task over; the
next one is to wait for the task, returns while the task still reads its stream, and then the
session is disconnected and observers are told. -/
theorem left_before_the_end :
    let config : ConnectionConfig := .ofTarget "main" "review.example.com" "jenkins"
    let c : Connection := .ofConfig config true none
    let c : Connection := (c.addListener ⟨"watcher", ⟨false⟩⟩).2
    let pass : Act := .other (.pass fun _ => false)
    let wake (move : Connection.Move) : Act := .other (.wake move)
    let acts : List Act :=
      [.start, .go 0, .go 0, .go 0, .go 0, wake .run, pass, pass, pass, pass, pass, pass,
        wake .connected, wake (.answered "gerrit version 3.4"), pass, pass, pass, wake .opened,
        pass, pass, pass, .shutdown false, .go 1, .go 1, .go 1, .go 1, .shutdown true, .go 2, .go 2,
        .go 2, .go 2]
    let rest : List Act := [wake .run, pass, pass, pass, wake .released, pass, pass]
    ∃ s story last more, (ofConnection c).log acts = some (s, story)
      ∧ s.callers = [.started, .left true, .left false] ∧ s.course.ended = false
      ∧ s.log rest = some (last, more)
      ∧ more.flatMap (·.2) = [.call (.disconnect 0), .tell "watcher" .down] := by
  intro config c d pass wake acts rest
  have hrun : ((ofConnection d).log acts).bind (fun (s, _) => (s.log rest).map fun (_, more) =>
        (s.callers, s.course.ended, more.flatMap (·.2)))
      = some ([.started, .left true, .left false], false,
        [.call (.disconnect 0), .tell "watcher" .down]) := by
    decide +kernel
  obtain ⟨⟨s, story⟩, hlog, hrest⟩ := Option.bind_eq_some_iff.mp hrun
  obtain ⟨⟨last, more⟩, hmore, hseen⟩ := Option.map_eq_some_iff.mp hrest
  simp only [Prod.mk.injEq] at hseen
  exact ⟨s, story, last, more, hlog, hseen.1, hseen.2.1, hmore, hseen.2.2⟩

end Scene

end ReviewStream
