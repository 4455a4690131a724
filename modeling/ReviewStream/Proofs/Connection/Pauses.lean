import Mathlib.Tactic.ByContra
import ReviewStream.Connection.Rehearsal
import ReviewStream.Proofs.Connection.Lifecycle

/-!
# The pause after a failure

When a connect fails, when a stream is not opened or when it ends before anything has arrived, the
task pauses before it tries again.  The pause is due as soon as the failure is known; until it is
over the task begins nothing.

* `TimedCourse`: a course on a clock, where no sleep ends early.
* `Course.IsHeld`: the task begins nothing before it has paused.
* **`TimedCourse.connectPause_le_of_fails`**: from a failure to the next beginning a full pause goes
  by.
-/

namespace ReviewStream

open Connection (Move)

/-! ## Time -/

/-- How long a task sleeps. -/
def Task.sleep : Task → Nat
  | .retrying | .backingOff _ => connectPause
  | .pausing _ => readPause
  | _ => 0

/-- Whether the task itself does something. -/
def Course.moves (r : Course) : Happening → Bool
  | .pass _ => match r.point with
    | .waiting => false
    | _ => true
  | .wake _ => true
  | .strike _ => false

/-- A course, the moment that has been reached, and the moment since which the task is where it
is. -/
structure TimedCourse where
  course : Course
  now : Nat
  since : Nat

namespace TimedCourse

/-- Whether something can happen at a moment: the clock does not go back, and a sleep takes its
time. -/
def allows (t : TimedCourse) (moment : Nat) (x : Happening) : Bool :=
  t.now ≤ moment && match x with
    | .wake .slept => t.since + t.course.connection.task.sleep ≤ moment
    | _ => true

/-- What a happening at a moment leads to; none if it cannot happen then. -/
def step (t : TimedCourse) (moment : Nat) (x : Happening) :
    Option (TimedCourse × List (Nat × Deed)) :=
  if t.allows moment x then
    (t.course.step x).map fun (course, deeds) =>
      (⟨course, moment, if t.course.moves x then moment else t.since⟩, deeds.map (moment, ·))
  else none

/-- A sequence of happenings at their moments, with what is done in them and when. -/
def log (t : TimedCourse) : List (Nat × Happening) → Option (TimedCourse × List (Nat × Deed))
  | [] => some (t, [])
  | (moment, x) :: rest => do
    let (next, deeds) ← t.step moment x
    let (last, later) ← next.log rest
    return (last, deeds ++ later)

end TimedCourse

/-! ## Being held -/

/-- Whether a task that waits begins nothing before it has paused. -/
def Task.isHeld (established : Bool) : Task → Bool
  | .retrying | .rejecting _ | .backingOff _ | .closing _ | .ended => true
  | .releasing _ backOff => backOff || !established
  | _ => false

/-- Whether the task begins nothing before it has paused. -/
def Point.isHeld (task : Task) (established : Bool) : Point → Bool
  | .waiting => task.isHeld established
  | .leave _ | .crashed => true
  | .unguard _ e | .disarm _ e | .judge _ e _ => e == .finished 0 || !established
  | .report _ backOff | .mourn _ backOff => backOff || !established
  | _ => false

namespace Course

variable {r : Course} {c : Connection} {x : Happening} {turn : Course × List Deed}

/-- The task begins nothing before it has paused. -/
def IsHeld (r : Course) : Prop :=
  r.point.isHeld r.connection.task r.connection.established = true

/-- Whether something is the failure of a connect, a stream that is not opened, or the end of a
stream of which nothing has arrived. -/
def fails (r : Course) : Happening → Bool
  | .wake (.refused _) | .wake (.unanswered _) | .wake (.unopened _) => true
  | .wake .finished => match r.connection.task with
    | .reading s => s.received = 0
    | _ => false
  | _ => false

lemma held_pass (crashing : String → Bool) {p : Point} (h : IsHeld ⟨c, p⟩) :
    (c.pass crashing p).1.IsHeld := by
  cases p with
  | waiting | crashed | unguard | disarm | report => exact h
  | leave reusable => cases reusable <;> rfl
  | judge =>
      simp only [Connection.pass]
      split_ifs <;> exact h
  | mourn reusable backOff =>
      have hpause : (backOff || !c.established) = true := h
      rw [Connection.pass_mourn, if_pos hpause]
      rfl
  | _ => cases h

/-- A task that is held stays so after a wait, unless that was its pause. -/
lemma held_of_wakes {move : Move} (h : IsHeld ⟨c, .waiting⟩) (hwakes : c.Wakes move turn) :
    turn.1.IsHeld ∨ move = .slept ∧ c.task.sleep = connectPause := by
  have hheld : c.task.isHeld c.established = true := h
  cases hwakes with
  | stopWaiting _ _ | stopRejecting _ _ | stopBackingOff _ _ | rejected _ _ | closed _ =>
      exact .inl rfl
  | released htask =>
      rw [htask] at hheld
      exact .inl hheld
  | retried htask _ | backedOff htask _ =>
      rw [htask]
      exact .inr ⟨rfl, rfl⟩
  | stopReading htask _ => rcases htask with htask | htask <;> rw [htask] at hheld <;> cases hheld
  | begin htask | stopQuerying htask _ | stopOpening htask _ | connected htask _
  | refused htask _ | answered htask _ | unanswered htask _ | opened htask _ | unopened htask _
  | received htask _ | finished htask _ | broken htask _ | discarded htask | paused htask _ =>
      rw [htask] at hheld
      cases hheld

/-- **A task that is held begins nothing**, and stays so until it has paused. -/
lemma IsHeld.step (h : r.IsHeld) (hfresh : r.Fresh) (hstep : r.step x = some turn) :
    (∀ d ∈ turn.2, d.begins = false)
      ∧ (turn.1.IsHeld ∨ x = .wake .slept ∧ r.connection.task.sleep = connectPause) := by
  constructor
  · intro d hd
    by_contra hbegins
    rw [Bool.not_eq_false] at hbegins
    obtain ⟨hpoint, -⟩ | ⟨-, session, command, hpoint, -⟩ := begins_of_step hstep hd hbegins
    · rw [IsHeld, hpoint] at h
      cases h
    · rw [IsHeld, hpoint] at h
      cases h
  · cases x with
    | pass crashing =>
        obtain rfl := Option.some.inj hstep
        exact .inl (held_pass crashing h)
    | wake move =>
        obtain ⟨c, p⟩ := r
        cases p <;> try cases hstep
        rcases held_of_wakes h (Connection.wake_spec hstep) with hheld | ⟨rfl, hsleep⟩
        · exact .inl hheld
        · exact .inr ⟨rfl, hsleep⟩
    | strike s =>
        left
        obtain rfl := Option.some.inj hstep
        cases s with
        | launch =>
            split_ifs with hstarted
            · exact h
            · obtain ⟨hpoint, htask⟩ := hfresh.mp (Bool.eq_false_iff.mpr hstarted)
              rw [IsHeld, hpoint, htask] at h
              cases h
        | _ => exact h

/-- A failure comes to a task that waits, which begins nothing then. -/
lemma not_begins_of_fails (hfails : r.fails x = true) (hstep : r.step x = some turn) :
    r.moves x = true ∧ ∀ d ∈ turn.2, d.begins = false := by
  cases x with
  | pass | strike => cases hfails
  | wake move =>
      refine ⟨rfl, fun d hd => ?_⟩
      by_contra hbegins
      rw [Bool.not_eq_false] at hbegins
      obtain ⟨c, p⟩ := r
      obtain ⟨rfl, -⟩ | ⟨-, session, command, rfl, -⟩ := begins_of_step hstep hd hbegins <;>
        cases hstep

/-- After a failure the task is held. -/
lemma held_of_fails (hsound : r.Sound) (hfails : r.fails x = true)
    (hstep : r.step x = some turn) : turn.1.IsHeld := by
  cases x with
  | pass | strike => cases hfails
  | wake move =>
      obtain ⟨c, p⟩ := r
      cases p <;> try cases hstep
      cases Connection.wake_spec hstep with
      | refused | unanswered => rfl
      | unopened htask _ =>
          -- The stream was never established.
          have hfits : c.task.standing.Fits c.state c.established := hsound
          rw [htask] at hfits
          have hflag : c.established = false := hfits.2
          simp [IsHeld, Point.isHeld, hflag]
      | @finished stream htask _ =>
          have htask : c.task = .reading stream := htask
          have hempty : stream.received = 0 := by simpa [fails, htask] using hfails
          simp [IsHeld, Point.isHeld, hempty]
      | _ => cases hfails

end Course

/-! ## Runs on a clock -/

namespace TimedCourse

open Course (ofConnection)

variable {t next last : TimedCourse} {x : Happening} {moment failure : Nat}
  {done : List (Nat × Deed)}

/-- What a step on the clock is: a step of the course at a moment that the clock allows. -/
lemma exists_of_step (h : t.step moment x = some (next, done)) :
    t.now ≤ moment ∧ (x = .wake .slept → t.since + t.course.connection.task.sleep ≤ moment)
      ∧ ∃ turn, t.course.step x = some turn ∧ done = turn.2.map (moment, ·)
        ∧ next = ⟨turn.1, moment, if t.course.moves x then moment else t.since⟩ := by
  rw [step] at h
  by_cases hallows : t.allows moment x = true
  case neg =>
    rw [if_neg hallows] at h
    cases h
  rw [if_pos hallows] at h
  obtain ⟨turn, hturn, hresult⟩ := Option.map_eq_some_iff.mp h
  cases hresult
  obtain ⟨hclock, hsleep⟩ := Bool.and_eq_true_iff.mp hallows
  refine ⟨of_decide_eq_true hclock, ?_, turn, hturn, rfl, rfl⟩
  rintro rfl
  exact of_decide_eq_true hsleep

/-- A run is a sequence of happenings at their moments. -/
lemma isRun : IsRun (fun (t : TimedCourse) x => t.step x.1 x.2) log [] (· ++ ·) :=
  .ofLists (fun _ => rfl) fun _ _ _ => rfl

/-- A run on the clock is a run. -/
lemma exists_log_of_log {happenings : List (Nat × Happening)}
    (h : t.log happenings = some (last, done)) :
    ∃ sights, t.course.log (happenings.map (·.2)) = some (last.course, sights) := by
  induction happenings generalizing t done with
  | nil =>
      cases h
      exact ⟨[], rfl⟩
  | cons first rest ih =>
      obtain ⟨next, made, later, hstep, hrest, -⟩ := isRun.exists_of_cons h
      obtain ⟨-, -, turn, hturn, -, rfl⟩ := exists_of_step hstep
      obtain ⟨sights, hsights⟩ := ih hrest
      exact ⟨_, Course.log_cons hturn hsights⟩

/-- The pause after a failure is over, or the task is held since then. -/
def Rests (failure : Nat) (t : TimedCourse) : Prop :=
  failure + connectPause ≤ t.now ∨ t.course.IsHeld ∧ failure ≤ t.since ∧ failure ≤ t.now

/-- Nothing begins before the pause is over. -/
lemma Rests.step (h : t.Rests failure) (hfresh : t.course.Fresh)
    (hstep : t.step moment x = some (next, done)) :
    next.Rests failure ∧ ∀ d ∈ done, d.2.begins = true → failure + connectPause ≤ d.1 := by
  obtain ⟨hclock, hsleep, turn, hturn, rfl, rfl⟩ := exists_of_step hstep
  rcases h with hover | ⟨hheld, hsince, hnow⟩
  · have hlater : failure + connectPause ≤ moment := Nat.le_trans hover hclock
    refine ⟨.inl hlater, fun d hd _ => ?_⟩
    obtain ⟨_, -, rfl⟩ := List.mem_map.mp hd
    exact hlater
  · obtain ⟨hnone, hafter⟩ := hheld.step hfresh hturn
    constructor
    · rcases hafter with hheld | ⟨rfl, hpause⟩
      · refine .inr ⟨hheld, ?_, Nat.le_trans hnow hclock⟩
        dsimp only
        split_ifs
        · exact Nat.le_trans hnow hclock
        · exact hsince
      · left
        have hover := hsleep rfl
        rw [hpause] at hover
        exact Nat.le_trans (Nat.add_le_add_right hsince _) hover
    · intro d hd hbegins
      obtain ⟨made, hmade, rfl⟩ := List.mem_map.mp hd
      rw [hnone made hmade] at hbegins
      cases hbegins

lemma Rests.log {happenings : List (Nat × Happening)} (h : t.Rests failure)
    (hfresh : t.course.Fresh) (hlog : t.log happenings = some (last, done)) :
    ∀ d ∈ done, d.2.begins = true → failure + connectPause ≤ d.1 := by
  have hlast := isRun.induction
    (I := fun t _ done => t.Rests failure ∧ t.course.Fresh
      ∧ ∀ d ∈ done, d.2.begins = true → failure + connectPause ≤ d.1)
    (fun t _ done first next made _ ⟨hrests, hfresh, hdone⟩ hstep => by
      obtain ⟨hafter, hmade⟩ := hrests.step hfresh hstep
      obtain ⟨-, -, turn, hturn, -, rfl⟩ := exists_of_step hstep
      exact ⟨hafter, hfresh.step hturn, List.forall_mem_append.mpr ⟨hdone, hmade⟩⟩)
    ⟨h, hfresh, by simp⟩ hlog
  exact hlast.2.2

/-- **No hot loop.**  When a connect fails, when the version query fails, when a stream is not
opened, or when it ends by itself before anything has arrived, the next connect and the next stream
begin no earlier than a full pause after that, whatever else happens.  A shutdown does not shorten
the pause: after it nothing begins at all.

A stream that breaks before anything has arrived is not among these failures. -/
theorem connectPause_le_of_fails {config : ConnectionConfig} {hasDispatcher : Bool}
    {updater : Option CredentialUpdater} {listeners : ListenerSet Observer}
    {earlier later : List (Nat × Happening)} {past more : List (Nat × Deed)}
    (hearlier : log ⟨ofConnection { Connection.ofConfig config hasDispatcher updater with
      listeners }, 0, 0⟩ earlier = some (t, past))
    (hfails : t.course.fails x = true)
    (hlater : t.log ((failure, x) :: later) = some (last, more)) :
    ∀ d ∈ more, d.2.begins = true → failure + connectPause ≤ d.1 := by
  have hstart := Course.fresh_ofConfig config hasDispatcher updater listeners
  obtain ⟨sights, hlog⟩ := exists_log_of_log hearlier
  have hfresh : t.course.Fresh := Course.fresh_of_log hstart hlog
  have hsound : t.course.Sound :=
    Course.sound_of_log (Course.sound_ofConfig config hasDispatcher updater listeners) hstart hlog
  obtain ⟨next, made, rest, hstep, hrest, rfl⟩ := isRun.exists_of_cons hlater
  obtain ⟨-, -, turn, hturn, rfl, rfl⟩ := exists_of_step hstep
  obtain ⟨hmoves, hnone⟩ := Course.not_begins_of_fails hfails hturn
  intro d hd hbegins
  rcases List.mem_append.mp hd with hd | hd
  · obtain ⟨made, hmade, rfl⟩ := List.mem_map.mp hd
    rw [hnone made hmade] at hbegins
    cases hbegins
  · have hheld : turn.1.IsHeld := Course.held_of_fails hsound hfails hturn
    have hrests : Rests failure ⟨turn.1, failure, failure⟩ :=
      .inr ⟨hheld, Nat.le_refl _, Nat.le_refl _⟩
    rw [hmoves] at hrest
    exact hrests.log (hfresh.step hturn) hrest d hd hbegins

set_option maxRecDepth 10000 in
/-- A stream that ends empty: the next one is asked for when the pause is over, on the session that
was kept. -/
theorem connectPause_le_of_fails_of_empty_stream :
    let config : ConnectionConfig := .ofTarget "main" "review.example.com" "jenkins"
    let c : Connection := { Connection.ofConfig config true none with listeners := .empty }
    let pass : Nat → Nat × Happening := fun moment => (moment, .pass fun _ => false)
    let earlier : List (Nat × Happening) :=
      [(0, .strike .launch), (1, .wake .run), pass 1, pass 1, pass 1, pass 1, pass 1, pass 1,
        (40, .wake .connected), (55, .wake (.answered "gerrit version 3.4")), pass 55, pass 55,
        pass 56, (70, .wake .opened), pass 70, pass 70, pass 71]
    let later : List (Nat × Happening) :=
      [pass 300, pass 301, pass 301, pass 301, pass 302, (2302, .wake .slept), pass 2302,
        pass 2302, pass 2302, pass 2303, pass 2303, pass 2303]
    ∃ t past last more, log ⟨ofConnection c, 0, 0⟩ earlier = some (t, past)
      ∧ t.course.fails (.wake .finished) = true
      ∧ t.log ((300, .wake .finished) :: later) = some (last, more)
      ∧ more.filter (·.2.begins) = [(2303, .call (.openStream 0 streamCommand))]
      ∧ ∀ d ∈ more, d.2.begins = true → 2300 ≤ d.1 := by
  intro config c pass earlier later
  obtain ⟨t, past, last, more, hearlier, hfails, hlater, hbegun⟩ :
      ∃ t past last more, log ⟨ofConnection c, 0, 0⟩ earlier = some (t, past)
        ∧ t.course.fails (.wake .finished) = true
        ∧ t.log ((300, .wake .finished) :: later) = some (last, more)
        ∧ more.filter (·.2.begins) = [(2303, .call (.openStream 0 streamCommand))] :=
    ⟨_, _, _, _, rfl, rfl, rfl, rfl⟩
  exact ⟨t, past, last, more, hearlier, hfails, hlater, hbegun,
    connectPause_le_of_fails hearlier hfails hlater⟩

/-- **A stream that breaks is followed at once.**  Nothing has arrived, and the next connect begins
at the very moment at which the stream breaks. -/
theorem connect_at_once_of_broken_stream :
    let config : ConnectionConfig := .ofTarget "main" "review.example.com" "jenkins"
    let c : Connection := .ofConfig config true none
    let pass : Nat × Happening := (0, .pass fun _ => false)
    let earlier : List (Nat × Happening) :=
      [(0, .strike .launch), (0, .wake .run), pass, pass, pass, pass, pass, pass,
        (0, .wake .connected), (0, .wake (.answered "gerrit version 3.4")), pass, pass, pass,
        (0, .wake .opened), pass, pass, pass]
    let later : List (Nat × Happening) :=
      [pass, pass, pass, (0, .wake .released), pass, pass, pass, pass, pass, pass, pass, pass]
    ∃ t past last more stream, log ⟨ofConnection c, 0, 0⟩ earlier = some (t, past)
      ∧ t.course.connection.task = .reading stream ∧ stream.received = 0
      ∧ t.log ((0, .wake .broken) :: later) = some (last, more)
      ∧ more.filter (·.2.begins) = [(0, .call (.connect config))] := by
  intro config c pass earlier later
  exact ⟨_, _, _, _, _, rfl, rfl, rfl, rfl, rfl⟩

end TimedCourse

end ReviewStream
