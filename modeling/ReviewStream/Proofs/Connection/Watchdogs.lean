import ReviewStream.Proofs.Connection.Points
import ReviewStream.Proofs.Watchdog.Timing

/-!
# The watchdogs of a connection

Every stream has a watchdog of its own if the settings ask for one.  The connection keeps the
current watchdog in one place; whoever stops the watchdog takes it from there and cancels it, and a
new one takes the place of another one that is still there, which is cancelled.  When a watchdog
raises the alarm its task reconnects, like any caller, one access after the other.  A watchdog that
is no longer the current one may be in the middle of that, or may not yet have found that it is
cancelled.

* `Guarded`: a connection with all watchdogs that it has started.
* `Guarded.run`: a run in which the task, the callers and the tasks of all watchdogs take turns.
* `Course.IsGuarding`: while the connection has a watchdog there is a stream.
* `Guarded.Manned`: what is always true of the watchdogs; all but the current one are cancelled.
* **`Guarded.nodup_requests_of_run`**: a watchdog reconnects once at most.
* **`Watchdog.punctual`**: when watchdogs raise the alarm, and how often.
-/

namespace ReviewStream

open Connection (Move)

/-! ## Watchdogs and their callbacks -/

/-- Where a watchdog is in its callback, which is a reconnect. -/
inductive Calling where
  | idle
  | counting
  | unwatching
  | interrupting
deriving DecidableEq

/-- The next access of a callback, and what is left of it then. -/
def Calling.next : Calling → Option (Strike × Calling)
  | .idle => none
  | .counting => some (.count, .unwatching)
  | .unwatching => some (.unwatch, .interrupting)
  | .interrupting => some (.interrupt, .idle)

/-- A watchdog that a connection has started. -/
structure Sentry where
  timeout : Nat
  windows : List Window
  task : WatchdogTask
  calling : Calling

/-- A connection and the watchdogs that it has started. -/
structure Guarded where
  course : Course
  /-- In the order of their starts. -/
  sentries : List Sentry
  /-- The current watchdog. -/
  current : Option Nat
  /-- The watchdogs that have requested a reconnect, one entry for each request. -/
  requests : List Nat

namespace Guarded

/-- A connection that has not started any watchdog. -/
def ofCourse (course : Course) : Guarded :=
  { course, sentries := [], current := none, requests := [] }

/-- Does something to the current watchdog. -/
def tellCurrent (g : Guarded) (f : WatchdogTask → WatchdogTask) : List Sentry :=
  match g.current with
  | none => g.sentries
  | some i => g.sentries.modify i fun s => { s with task := f s.task }

/-- The sentries when the current watchdog is cancelled. -/
def dismissed (g : Guarded) : List Sentry := g.tellCurrent .stop

/-- What a deed of the connection means for the watchdogs. -/
def heed (g : Guarded) : Deed → Guarded
  | .watch timeoutSecs =>
    let sentry : Sentry :=
      { timeout := timeoutSecs.toNat * 1000
        windows := g.course.connection.config.watchdogWindows
        task := .spawned
        calling := .idle }
    { g with sentries := g.dismissed ++ [sentry], current := some g.sentries.length }
  | .unwatch => { g with sentries := g.dismissed, current := none }
  | .signal => { g with sentries := g.tellCurrent .signal }
  | _ => g

/-- Something happens to the connection. -/
def happen (g : Guarded) (x : Happening) : Option Guarded :=
  (g.course.step x).map fun turn => turn.2.foldl heed { g with course := turn.1 }

/-- What can happen next. -/
inductive Act where
  | happen (x : Happening)
  /-- The task of a watchdog takes a step at some moment. -/
  | poll (i now : Nat)
  /-- A watchdog goes on with its callback. -/
  | call (i : Nat)

/-- What becomes of a connection and its watchdogs; none if the act is not possible now. -/
def step (localTime : Nat → LocalTime) (g : Guarded) : Act → Option Guarded
  | .happen x => g.happen x
  | .poll i now =>
    g.sentries[i]?.bind fun s =>
      if s.calling = .idle then
        let (task, expired) := s.task.poll s.timeout now
        let calling : Calling :=
          if expired && !isExempt s.windows (localTime now) then .counting else .idle
        some { g with sentries := g.sentries.set i { s with task, calling } }
      else none
  | .call i =>
    g.sentries[i]?.bind fun s => s.calling.next.bind fun (strike, calling) =>
      (g.happen (.strike strike)).map fun g =>
        { g with
          sentries := g.sentries.modify i fun s => { s with calling }
          requests := match strike with
            | .count => g.requests ++ [i]
            | _ => g.requests }

/-- A sequence of acts. -/
def run (localTime : Nat → LocalTime) (g : Guarded) : List Act → Option Guarded
  | [] => some g
  | act :: rest => (g.step localTime act).bind fun g => run localTime g rest

end Guarded

/-! ## While there is a watchdog -/

/-- Whether the connection may have a watchdog when its task is there. -/
def Point.mayGuard (task : Task) : Point → Bool
  | .waiting => match task with
    | .opening _ | .reading _ | .pausing _ => true
    | _ => false
  | .ask _ | .establish _ | .announce _ | .read _ | .unguard _ _ => true
  | _ => false

namespace Course

variable {r : Course} {c : Connection} {x : Happening} {turn : Course × List Deed}

/-- While the connection has a watchdog there is a stream, or one is about to be asked for. -/
def IsGuarding (r : Course) : Prop :=
  r.connection.watched = true → r.point.mayGuard r.connection.task = true

/-- Whether there is a watchdog after a deed. -/
def onDuty (watched : Bool) : Deed → Bool
  | .watch _ => true
  | .unwatch => false
  | _ => watched

lemma IsGuarding.unwatched (h : r.IsGuarding)
    (hpoint : r.point.mayGuard r.connection.task = false) : r.connection.watched = false := by
  cases hw : r.connection.watched with
  | false => rfl
  | true => exact absurd (h hw) (by simp [hpoint])

lemma isGuarding_of_unwatched (h : r.connection.watched = false) : r.IsGuarding := by
  intro hw
  rw [h] at hw
  cases hw

lemma foldl_onDuty_eq {deeds : List Deed} (h : ∀ d ∈ deeds, ∀ b, onDuty b d = b) (b : Bool) :
    deeds.foldl onDuty b = b := by
  induction deeds with
  | nil => rfl
  | cons d rest ih =>
      rw [List.foldl_cons, h d List.mem_cons_self b]
      exact ih fun d hd => h d (List.mem_cons_of_mem _ hd)

lemma foldl_onDuty_tellAll (c : Connection) (e : ConnectionEvent) (b : Bool) :
    (c.tellAll e).foldl onDuty b = b := by
  refine foldl_onDuty_eq (fun d hd b => ?_) b
  obtain ⟨observer, rfl⟩ := Connection.exists_eq_of_mem_tellAll hd
  rfl

lemma foldl_onDuty_stopWatchdog (c : Connection) :
    c.stopWatchdog.2.foldl onDuty c.watched = false := by
  rw [Connection.stopWatchdog]
  cases c.watched <;> rfl

lemma guarding_pass (crashing : String → Bool) {p : Point} (h : IsGuarding ⟨c, p⟩) :
    (c.pass crashing p).1.IsGuarding ∧ (c.pass crashing p).1.connection.watched
      = (c.pass crashing p).2.foldl onDuty c.watched := by
  cases p with
  | guard session =>
      have hwatched : c.watched = false := h.unwatched rfl
      rw [Connection.pass]
      refine ⟨fun _ => rfl, ?_⟩
      cases c.config.watchdogTimeout? with
      | none => exact hwatched.symm
      | some timeout => rfl
  | unguard session e => exact ⟨by rintro ⟨⟩, (foldl_onDuty_stopWatchdog c).symm⟩
  | refresh =>
      rw [Connection.pass, Connection.refresh_eq]
      refine ⟨h, (foldl_onDuty_eq (fun d hd b => ?_) _).symm⟩
      rw [Connection.eq_of_mem_refresh hd]
      rfl
  | announce =>
      rw [Connection.pass_announce]
      exact ⟨h, (foldl_onDuty_tellAll c _ _).symm⟩
  | mourn =>
      rw [Connection.pass_mourn]
      have htold : (if c.established then c.tellAll .down else []).foldl onDuty c.watched
          = c.watched := by
        split_ifs
        · exact foldl_onDuty_tellAll c _ _
        · rfl
      rw [htold]
      split_ifs <;> exact ⟨isGuarding_of_unwatched (h.unwatched rfl), rfl⟩
  | choose reusable =>
      cases reusable with
      | none => exact ⟨isGuarding_of_unwatched (h.unwatched rfl), rfl⟩
      | some session =>
          rw [Connection.pass]
          split_ifs <;> exact ⟨isGuarding_of_unwatched (h.unwatched rfl), rfl⟩
  | leave reusable => cases reusable <;> exact ⟨isGuarding_of_unwatched (h.unwatched rfl), rfl⟩
  | loop | connect | reuse | attempt | judge =>
      simp only [Connection.pass]
      split_ifs <;> exact ⟨isGuarding_of_unwatched (h.unwatched rfl), rfl⟩
  | ask | establish =>
      simp only [Connection.pass]
      split_ifs <;> exact ⟨fun hw => rfl, rfl⟩
  | _ => exact ⟨h, rfl⟩

lemma guarding_of_wakes {move : Move} (h : IsGuarding ⟨c, .waiting⟩)
    (hwakes : c.Wakes move turn) :
    turn.1.IsGuarding ∧ turn.1.connection.watched = turn.2.foldl onDuty c.watched := by
  cases hwakes with
  | received htask _ =>
      refine ⟨fun _ => rfl, (foldl_onDuty_eq (fun d hd b => ?_) _).symm⟩
      obtain ⟨line, rfl⟩ | rfl := Connection.eq_of_mem_take hd <;> rfl
  | stopOpening | stopReading | opened | unopened | finished | broken | paused =>
      exact ⟨fun _ => rfl, rfl⟩
  | stopWaiting htask _ =>
      rcases htask with htask | htask <;>
        exact ⟨isGuarding_of_unwatched (h.unwatched (by rw [htask]; rfl)), rfl⟩
  | begin htask | stopQuerying htask _ | stopRejecting htask _ | stopBackingOff htask _
  | connected htask _ | refused htask _ | answered htask _ | unanswered htask _
  | rejected htask _ | released htask | discarded htask | closed htask | retried htask _
  | backedOff htask _ =>
      exact ⟨isGuarding_of_unwatched (h.unwatched (by rw [htask]; rfl)), rfl⟩

/-- The connection knows whether it has a watchdog. -/
lemma IsGuarding.step (h : r.IsGuarding) (hfresh : r.Fresh) (hstep : r.step x = some turn) :
    turn.1.IsGuarding
      ∧ turn.1.connection.watched = turn.2.foldl onDuty r.connection.watched := by
  cases x with
  | pass crashing =>
      obtain rfl := Option.some.inj hstep
      exact guarding_pass crashing h
  | wake move =>
      obtain ⟨c, p⟩ := r
      cases p <;> try cases hstep
      exact guarding_of_wakes h (Connection.wake_spec hstep)
  | strike s =>
      obtain rfl := Option.some.inj hstep
      cases s with
      | launch =>
          refine ⟨?_, by split_ifs <;> rfl⟩
          split_ifs with hstarted
          · exact h
          · obtain ⟨hpoint, htask⟩ := hfresh.mp (Bool.eq_false_iff.mpr hstarted)
            exact isGuarding_of_unwatched (h.unwatched (by rw [hpoint, htask]; rfl))
      | unwatch =>
          exact ⟨nofun, (foldl_onDuty_stopWatchdog r.connection).symm⟩
      | _ => exact ⟨h, rfl⟩

end Course

/-! ## The watchdogs -/

namespace Guarded

variable {localTime : Nat → LocalTime} {g g' : Guarded} {i : Nat} {s : Sentry} {d : Deed}
  {x : Happening} {act : Act}

/-- What is always true of the watchdogs of a connection. -/
structure Manned (g : Guarded) : Prop where
  current_lt : ∀ i, g.current = some i → i < g.sentries.length
  requests_lt : ∀ i ∈ g.requests, i < g.sentries.length
  /-- Every watchdog but the current one is cancelled. -/
  cancelled : ∀ i s, g.sentries[i]? = some s → g.current ≠ some i → s.task.cancelled = true
  /-- Who begins a reconnect has not requested one before. -/
  unspent : ∀ i s, g.sentries[i]? = some s → s.calling = .counting → i ∉ g.requests
  /-- Who has requested a reconnect is cancelled, or is about to stop the current watchdog. -/
  spent : ∀ i s, g.sentries[i]? = some s → i ∈ g.requests →
    s.task.cancelled = true ∨ s.calling = .unwatching
  nodup : g.requests.Nodup

lemma manned_ofCourse (course : Course) : (ofCourse course).Manned where
  current_lt := nofun
  requests_lt := nofun
  cancelled := nofun
  unspent := nofun
  spent := nofun
  nodup := .nil

lemma length_tellCurrent (g : Guarded) (f : WatchdogTask → WatchdogTask) :
    (g.tellCurrent f).length = g.sentries.length := by
  rw [tellCurrent]
  cases g.current with
  | none => rfl
  | some i => exact List.length_modify ..

lemma lt_length_tellCurrent (f : WatchdogTask → WatchdogTask) (h : i < g.sentries.length) :
    i < (g.tellCurrent f).length :=
  (length_tellCurrent g f).symm ▸ h

/-- Only the current watchdog is told something. -/
lemma getElem?_tellCurrent (g : Guarded) (f : WatchdogTask → WatchdogTask) (i : Nat) :
    (g.tellCurrent f)[i]?
      = g.sentries[i]?.map fun s =>
          if g.current = some i then { s with task := f s.task } else s := by
  rw [tellCurrent]
  cases g.current with
  | none => simp
  | some j =>
      dsimp only
      rw [List.getElem?_modify]
      simp only [Option.some.injEq, Option.map_eq_map]

/-- Nobody's callback is touched when the current watchdog is told something. -/
lemma exists_of_getElem?_tellCurrent {f : WatchdogTask → WatchdogTask}
    (h : (g.tellCurrent f)[i]? = some s) :
    ∃ before, g.sentries[i]? = some before ∧ s.calling = before.calling
      ∧ s.task = if g.current = some i then f before.task else before.task := by
  rw [getElem?_tellCurrent] at h
  obtain ⟨before, hbefore, rfl⟩ := Option.map_eq_some_iff.mp h
  refine ⟨before, hbefore, ?_⟩
  split_ifs <;> exact ⟨rfl, rfl⟩

lemma exists_getElem?_tellCurrent (h : g.sentries[i]? = some s)
    (f : WatchdogTask → WatchdogTask) :
    ∃ after, (g.tellCurrent f)[i]? = some after ∧ after.calling = s.calling := by
  rw [getElem?_tellCurrent, h]
  refine ⟨_, rfl, ?_⟩
  split_ifs <;> rfl

/-- Once the current watchdog is cancelled all of them are. -/
lemma Manned.cancelled_of_dismissed (h : g.Manned) (hs : g.dismissed[i]? = some s) :
    s.task.cancelled = true := by
  obtain ⟨before, hbefore, -, htask⟩ := exists_of_getElem?_tellCurrent hs
  rw [htask]
  split_ifs with hcurrent
  · rfl
  · exact h.cancelled i before hbefore hcurrent

/-- Whatever the current watchdog is told, callbacks go on as before. -/
lemma Manned.unspent_tellCurrent (h : g.Manned) (f : WatchdogTask → WatchdogTask)
    (hs : (g.tellCurrent f)[i]? = some s) (hcalling : s.calling = .counting) : i ∉ g.requests := by
  obtain ⟨before, hbefore, hsame, -⟩ := exists_of_getElem?_tellCurrent hs
  exact h.unspent i before hbefore (hsame.symm.trans hcalling)

lemma heed_frame (g : Guarded) (d : Deed) :
    (g.heed d).course = g.course ∧ (g.heed d).requests = g.requests
      ∧ (g.heed d).current.isSome = Course.onDuty g.current.isSome d := by
  cases d <;> exact ⟨rfl, rfl, rfl⟩

/-- A new watchdog takes the place of the current one. -/
lemma Manned.relieved (h : g.Manned) {new : Sentry} (hnew : new.calling = .idle) :
    { g with sentries := g.dismissed ++ [new], current := some g.sentries.length }.Manned := by
  have hlength : g.dismissed.length = g.sentries.length := length_tellCurrent g _
  have hcases {i : Nat} {s : Sentry} (hs : (g.dismissed ++ [new])[i]? = some s) :
      g.dismissed[i]? = some s ∨ i = g.sentries.length ∧ s = new := by
    rcases Nat.lt_or_ge i g.dismissed.length with hlt | hge
    · rw [List.getElem?_append_left hlt] at hs
      exact .inl hs
    · rw [List.getElem?_append_right hge, List.getElem?_singleton] at hs
      split_ifs at hs with hlast
      exact .inr ⟨by omega, (Option.some.inj hs).symm⟩
  refine ⟨fun i hi => ?_, fun i hi => ?_, fun i s hs hne => ?_, fun i s hs hcalling => ?_,
    fun i s hs hi => ?_, h.nodup⟩
  · obtain rfl := Option.some.inj hi
    simp [hlength]
  · have hlt := h.requests_lt i hi
    simp only [List.length_append, hlength, List.length_singleton]
    omega
  · rcases hcases hs with hbefore | ⟨rfl, -⟩
    · exact h.cancelled_of_dismissed hbefore
    · exact absurd rfl hne
  · rcases hcases hs with hbefore | ⟨-, rfl⟩
    · exact h.unspent_tellCurrent _ hbefore hcalling
    · rw [hnew] at hcalling
      cases hcalling
  · rcases hcases hs with hbefore | ⟨rfl, -⟩
    · exact .inl (h.cancelled_of_dismissed hbefore)
    · exact absurd (h.requests_lt _ hi) (Nat.lt_irrefl _)

lemma Manned.heed (h : g.Manned) (d : Deed) : (g.heed d).Manned := by
  cases d with
  | watch timeoutSecs => exact h.relieved rfl
  | unwatch =>
      refine ⟨nofun, fun i hi => ?_, fun i s hs _ => h.cancelled_of_dismissed hs,
        fun i s hs => h.unspent_tellCurrent .stop hs,
        fun i s hs _ => .inl (h.cancelled_of_dismissed hs), h.nodup⟩
      exact lt_length_tellCurrent .stop (h.requests_lt i hi)
  | signal =>
      have hsame {i : Nat} {s : Sentry}
          (hs : (g.tellCurrent .signal)[i]? = some s) :
          ∃ before, g.sentries[i]? = some before ∧ s.calling = before.calling
            ∧ s.task.cancelled = before.task.cancelled := by
        obtain ⟨before, hbefore, hcalling, htask⟩ := exists_of_getElem?_tellCurrent hs
        refine ⟨before, hbefore, hcalling, ?_⟩
        rw [htask]
        split_ifs <;> rfl
      refine ⟨fun i hi => ?_, fun i hi => ?_, fun i s hs hne => ?_,
        fun i s hs => h.unspent_tellCurrent .signal hs,
        fun i s hs hi => ?_, h.nodup⟩
      · exact lt_length_tellCurrent .signal (h.current_lt i hi)
      · exact lt_length_tellCurrent .signal (h.requests_lt i hi)
      · obtain ⟨before, hbefore, -, hcancelled⟩ := hsame hs
        exact hcancelled.trans (h.cancelled i before hbefore hne)
      · obtain ⟨before, hbefore, hcalling, hcancelled⟩ := hsame hs
        rw [hcalling, hcancelled]
        exact h.spent i before hbefore hi
  | _ => exact h

lemma Manned.foldl_heed (h : g.Manned) (deeds : List Deed) :
    (deeds.foldl Guarded.heed g).Manned := by
  induction deeds generalizing g with
  | nil => exact h
  | cons d rest ih => exact ih (h.heed d)

lemma foldl_heed_frame (g : Guarded) (deeds : List Deed) :
    (deeds.foldl heed g).course = g.course ∧ (deeds.foldl heed g).requests = g.requests
      ∧ (deeds.foldl heed g).current.isSome = deeds.foldl Course.onDuty g.current.isSome := by
  induction deeds generalizing g with
  | nil => exact ⟨rfl, rfl, rfl⟩
  | cons d rest ih =>
      obtain ⟨hcourse, hrequests, hcurrent⟩ := heed_frame g d
      obtain ⟨hcourse', hrequests', hcurrent'⟩ := ih (g.heed d)
      refine ⟨hcourse'.trans hcourse, hrequests'.trans hrequests, ?_⟩
      rw [List.foldl_cons, List.foldl_cons, hcurrent', hcurrent]

/-- A watchdog stays where it is in its callback whatever the connection does. -/
lemma exists_of_foldl_heed (deeds : List Deed) (h : g.sentries[i]? = some s) :
    ∃ after, (deeds.foldl heed g).sentries[i]? = some after ∧ after.calling = s.calling := by
  induction deeds generalizing g s with
  | nil => exact ⟨s, h, rfl⟩
  | cons d rest ih =>
      have hnext : ∃ after, (g.heed d).sentries[i]? = some after ∧ after.calling = s.calling := by
        cases d with
        | watch timeoutSecs =>
            obtain ⟨after, hafter, hcalling⟩ := exists_getElem?_tellCurrent h .stop
            have hlt := (List.getElem?_eq_some_iff.mp hafter).1
            exact ⟨after, (List.getElem?_append_left hlt).trans hafter, hcalling⟩
        | unwatch => exact exists_getElem?_tellCurrent h .stop
        | signal => exact exists_getElem?_tellCurrent h .signal
        | _ => exact ⟨s, h, rfl⟩
      obtain ⟨next, hnext, hsame⟩ := hnext
      obtain ⟨after, hafter, hcalling⟩ := ih hnext
      exact ⟨after, hafter, hcalling.trans hsame⟩

/-- What is always true of a connection and its watchdogs. -/
structure Sound (g : Guarded) : Prop where
  fresh : g.course.Fresh
  guarding : g.course.IsGuarding
  /-- The connection knows whether there is a current watchdog. -/
  watched : g.course.connection.watched = g.current.isSome
  manned : g.Manned

lemma Sound.happen (h : g.Sound) (hstep : g.happen x = some g') :
    g'.Sound ∧ g'.requests = g.requests := by
  obtain ⟨turn, hturn, rfl⟩ := Option.map_eq_some_iff.mp hstep
  obtain ⟨hguarding, hwatched⟩ := h.guarding.step h.fresh hturn
  obtain ⟨hcourse, hrequests, hcurrent⟩ := foldl_heed_frame { g with course := turn.1 } turn.2
  refine ⟨⟨?_, ?_, ?_, ?_⟩, hrequests⟩
  · rw [hcourse]
    exact h.fresh.step hturn
  · rw [hcourse]
    exact hguarding
  · rw [hcourse, hcurrent, hwatched, h.watched]
  · exact Manned.foldl_heed (g := { g with course := turn.1 })
      ⟨h.manned.current_lt, h.manned.requests_lt, h.manned.cancelled, h.manned.unspent,
        h.manned.spent, h.manned.nodup⟩ turn.2

/-- A task that finds that its timeout has expired is not cancelled, and whether it is cancelled is
not up to it. -/
lemma poll_cancelled (timeout now : Nat) (t : WatchdogTask) :
    (t.poll timeout now).1.cancelled = t.cancelled
      ∧ ((t.poll timeout now).2 = true → t.cancelled = false) := by
  have hpoll := t.poll_spec timeout now
  generalize t.poll timeout now = polled at hpoll ⊢
  cases hpoll with
  | expire _ hcancelled => exact ⟨rfl, fun _ => hcancelled⟩
  | _ => exact ⟨rfl, nofun⟩

/-- One watchdog goes on, and may have requested a reconnect in doing so. -/
lemma Manned.goOn {sentries : List Sentry} {new : Sentry} {requests : List Nat} (h : g.Manned)
    (hs : g.sentries[i]? = some s) (hlength : sentries.length = g.sentries.length)
    (hothers : ∀ j, i ≠ j → sentries[j]? = g.sentries[j]?) (hnew : sentries[i]? = some new)
    (hcancelled : s.task.cancelled = true → new.task.cancelled = true)
    (hrequests : requests = g.requests ∨ requests = g.requests ++ [i] ∧ i ∉ g.requests)
    (hunspent : new.calling = .counting → i ∉ requests)
    (hspent : i ∈ requests → new.task.cancelled = true ∨ new.calling = .unwatching) :
    { g with sentries, requests }.Manned := by
  have hmem {j : Nat} (hne : i ≠ j) : j ∈ requests ↔ j ∈ g.requests := by
    rcases hrequests with rfl | ⟨rfl, -⟩
    · exact Iff.rfl
    · simp [hne.symm]
  have hlt : i < g.sentries.length := (List.getElem?_eq_some_iff.mp hs).1
  refine ⟨fun j hj => hlength.symm ▸ h.current_lt j hj, fun j hj => ?_, fun j s' hs' hne => ?_,
    fun j s' hs' => ?_, fun j s' hs' => ?_, ?_⟩
  · rw [hlength]
    by_cases hij : i = j
    · exact hij ▸ hlt
    · exact h.requests_lt j ((hmem hij).mp hj)
  · by_cases hij : i = j
    · subst hij
      obtain rfl : new = s' := Option.some.inj (hnew.symm.trans hs')
      exact hcancelled (h.cancelled i s hs hne)
    · exact h.cancelled j s' ((hothers j hij).symm.trans hs') hne
  · by_cases hij : i = j
    · subst hij
      obtain rfl : new = s' := Option.some.inj (hnew.symm.trans hs')
      exact hunspent
    · rw [hmem hij]
      exact h.unspent j s' ((hothers j hij).symm.trans hs')
  · by_cases hij : i = j
    · subst hij
      obtain rfl : new = s' := Option.some.inj (hnew.symm.trans hs')
      exact hspent
    · rw [hmem hij]
      exact h.spent j s' ((hothers j hij).symm.trans hs')
  · rcases hrequests with rfl | ⟨rfl, hnone⟩
    · exact h.nodup
    · refine List.nodup_append.mpr ⟨h.nodup, List.pairwise_singleton _ i, fun j hj k hk => ?_⟩
      rintro rfl
      exact hnone (List.mem_singleton.mp hk ▸ hj)

lemma Sound.poll {now : Nat} (h : g.Sound) (hstep : g.step localTime (.poll i now) = some g') :
    g'.Sound := by
  rw [step] at hstep
  obtain ⟨s, hs, hpolled⟩ := Option.bind_eq_some_iff.mp hstep
  obtain ⟨hsame, hexpired⟩ := poll_cancelled s.timeout now s.task
  generalize s.task.poll s.timeout now = polled at hpolled hsame hexpired
  have hlt : i < g.sentries.length := (List.getElem?_eq_some_iff.mp hs).1
  by_cases hidle : s.calling = .idle
  · rw [if_pos hidle] at hpolled
    obtain rfl := Option.some.inj hpolled
    -- who has requested a reconnect and is back in its loop is cancelled
    have hspent (hi : i ∈ g.requests) : s.task.cancelled = true := by
      rcases h.manned.spent i s hs hi with hcancelled | hcalling
      · exact hcancelled
      · rw [hidle] at hcalling
        cases hcalling
    refine ⟨h.fresh, h.guarding, h.watched, h.manned.goOn hs List.length_set
      (fun j hne => List.getElem?_set_ne hne) (List.getElem?_set_self hlt)
      (fun hcancelled => hsame.trans hcancelled) (.inl rfl) (fun hcalling hi => ?_)
      fun hi => .inl (hsame.trans (hspent hi))⟩
    cases halarm : polled.2 with
    | false =>
        rw [halarm] at hcalling
        cases hcalling
    | true =>
        have hgo : s.task.cancelled = false := hexpired halarm
        rw [hspent hi] at hgo
        cases hgo
  · rw [if_neg hidle] at hpolled
    cases hpolled

/-- When the current watchdog is stopped there is none any more. -/
lemma current_of_unwatch (h : g.Sound) (hstep : g.happen (.strike .unwatch) = some g') :
    g'.current = none := by
  obtain ⟨turn, hturn, rfl⟩ := Option.map_eq_some_iff.mp hstep
  obtain ⟨-, -, hcurrent⟩ := foldl_heed_frame { g with course := turn.1 } turn.2
  obtain rfl := Option.some.inj hturn
  rw [← h.watched] at hcurrent
  exact Option.not_isSome_iff_eq_none.mp
    (by rw [hcurrent]; exact Bool.eq_false_iff.mp (Course.foldl_onDuty_stopWatchdog _))

lemma Sound.call (h : g.Sound) (hstep : g.step localTime (.call i) = some g') : g'.Sound := by
  obtain ⟨s, hs, hcalled⟩ := Option.bind_eq_some_iff.mp hstep
  obtain ⟨⟨strike, calling⟩, hnext, hstruck⟩ := Option.bind_eq_some_iff.mp hcalled
  obtain ⟨next, happened, rfl⟩ := Option.map_eq_some_iff.mp hstruck
  obtain ⟨hsound, hrequests⟩ := h.happen happened
  obtain ⟨s', hs', hcalling⟩ :
      ∃ s', next.sentries[i]? = some s' ∧ s'.calling = s.calling := by
    obtain ⟨turn, -, rfl⟩ := Option.map_eq_some_iff.mp happened
    exact exists_of_foldl_heed (g := { g with course := turn.1 }) turn.2 hs
  have hlength : (next.sentries.modify i fun s => { s with calling }).length
      = next.sentries.length := List.length_modify ..
  have hothers (j : Nat) (hne : i ≠ j) :
      (next.sentries.modify i fun s => { s with calling })[j]? = next.sentries[j]? := by
    simp [hne]
  have hnew : (next.sentries.modify i fun s => { s with calling })[i]?
      = some { s' with calling } := by
    simp [hs']
  refine ⟨hsound.fresh, hsound.guarding, hsound.watched, ?_⟩
  cases hstage : s.calling with
  | idle =>
      rw [hstage] at hnext
      cases hnext
  | counting =>
      rw [hstage] at hnext
      cases hnext
      have hunspent : i ∉ next.requests := hrequests ▸ h.manned.unspent i s hs hstage
      exact hsound.manned.goOn hs' hlength hothers hnew id (.inr ⟨rfl, hunspent⟩) nofun
        fun _ => .inr rfl
  | unwatching =>
      rw [hstage] at hnext
      cases hnext
      have hnone : next.current ≠ some i := by
        rw [current_of_unwatch h happened]
        exact nofun
      exact hsound.manned.goOn hs' hlength hothers hnew id (.inl rfl) nofun
        fun _ => .inl (hsound.manned.cancelled i s' hs' hnone)
  | interrupting =>
      rw [hstage] at hnext
      cases hnext
      refine hsound.manned.goOn hs' hlength hothers hnew id (.inl rfl) nofun fun hi => .inl ?_
      rcases hsound.manned.spent i s' hs' hi with hcancelled | hearlier
      · exact hcancelled
      · rw [hcalling, hstage] at hearlier
        cases hearlier

lemma Sound.step (h : g.Sound) (hstep : g.step localTime act = some g') : g'.Sound := by
  cases act with
  | happen x => exact (h.happen hstep).1
  | poll i now => exact h.poll hstep
  | call i => exact h.call hstep

lemma Sound.run {acts : List Act} (h : g.Sound) (hrun : g.run localTime acts = some g') :
    g'.Sound := by
  induction acts generalizing g with
  | nil =>
      cases hrun
      exact h
  | cons act rest ih =>
      obtain ⟨next, hstep, hrest⟩ := Option.bind_eq_some_iff.mp hrun
      exact ih (h.step hstep) hrest

/-- **A watchdog requests one reconnect at most**, whatever its task, the other watchdogs, the task
of the connection and the callers do, and in whatever order. -/
theorem nodup_requests_of_run {config : ConnectionConfig} {hasDispatcher : Bool}
    {updater : Option CredentialUpdater} {listeners : ListenerSet Observer} {acts : List Act}
    (hrun : (ofCourse (.ofConnection { Connection.ofConfig config hasDispatcher updater with
      listeners })).run localTime acts = some g) :
    g.requests.Nodup ∧ ∀ i ∈ g.requests, i < g.sentries.length := by
  have hstart : Sound (ofCourse (.ofConnection
      { Connection.ofConfig config hasDispatcher updater with listeners })) :=
    ⟨Course.fresh_ofConfig config hasDispatcher updater listeners,
      Course.isGuarding_of_unwatched rfl, rfl, manned_ofCourse _⟩
  have hsound := hstart.run hrun
  exact ⟨hsound.manned.nodup, hsound.manned.requests_lt⟩

end Guarded

/-- **When watchdogs raise the alarm.**

* A watchdog on a clock, with signs of life and stops at any moments, raises the alarm exactly when
  the silence since its start or a sign of life has lasted for a full number of timeouts, unless it
  was stopped before or the moment is exempt; and its clock can always go on.
* So does a watchdog that is run from one input to the next.
* Each watchdog of a connection requests one reconnect at most. -/
theorem Watchdog.punctual :
    (∀ (localTime : Nat → LocalTime) (timeout : Nat) (windows : List Window) (start : Nat)
      (acts : List Timer.Act) (t : Timer), 0 < timeout →
      (Timer.start timeout windows start).run localTime acts = some t →
        t.IsPunctual localTime start ∧ t.timeout = timeout ∧ t.windows = windows
          ∧ ∀ t', t.run localTime [.turn, .turn] = some t' → t'.task.rests t'.now = true) ∧
    (∀ (localTime : Nat → LocalTime) (timeout : Nat) (windows : List Window) (start moment : Nat)
      (inputs : List (Nat × Watchdog.Input)), 0 < timeout →
      (start :: (inputs.map Prod.fst ++ [moment])).Pairwise (· ≤ ·) →
        let alarms := (Watchdog.start timeout windows start).alarmsBefore localTime moment inputs
        alarms.Pairwise (fun a b => a + timeout ≤ b) ∧ ∀ a, a ∈ alarms ↔ a < moment
          ∧ IsDue localTime timeout windows start (Watchdog.momentsOf .signal inputs)
            (Watchdog.momentsOf .stop inputs) a) ∧
    ∀ (localTime : Nat → LocalTime) (config : ConnectionConfig) (hasDispatcher : Bool)
      (updater : Option CredentialUpdater) (listeners : ListenerSet Observer)
      (acts : List Guarded.Act) (g : Guarded),
      (Guarded.ofCourse (.ofConnection { Connection.ofConfig config hasDispatcher updater with
        listeners })).run localTime acts = some g →
        g.requests.Nodup ∧ ∀ i ∈ g.requests, i < g.sentries.length := by
  refine ⟨fun localTime timeout windows start acts t htimeout hrun => ?_,
    fun localTime timeout windows start moment inputs htimeout hinputs => ?_,
    fun localTime config hasDispatcher updater listeners acts g hrun =>
      Guarded.nodup_requests_of_run hrun⟩
  · exact Timer.punctual_of_run htimeout hrun
  · exact Watchdog.spaced_alarmsBefore htimeout hinputs

/-- A watchdog with a window gets a sign of life and is stopped right after its second alarm; and
the watchdog of a stream requests a reconnect, after which its task comes to its end. -/
theorem Watchdog.punctual_of_silence :
    let localTime (n : Nat) : LocalTime := ⟨0, ⟨n, 0⟩⟩
    let windows : List Window := [⟨⟨6, 0⟩, ⟨8, 0⟩, []⟩]
    let acts : List Timer.Act :=
      [.turn, .tick, .signal, .turn, .turn, .tick, .tick, .tick, .turn, .turn, .tick, .tick, .tick,
        .turn, .turn, .tick, .tick, .tick, .turn, .stop, .turn, .tick]
    let inputs : List (Nat × Watchdog.Input) := [(1, .signal), (11, .stop)]
    let config : ConnectionConfig :=
      { ConnectionConfig.ofTarget "main" "review.example.com" "jenkins" with
        watchdogTimeoutSecs := 1 }
    let c : Connection := { Connection.ofConfig config true none with listeners := .empty }
    let pass : Guarded.Act := .happen (.pass fun _ => false)
    let opening : List Guarded.Act :=
      [.happen (.strike .launch), .happen (.wake .run), pass, pass, pass, pass, pass, pass,
        .happen (.wake .connected), .happen (.wake (.answered "gerrit version 3.4")), pass, pass,
        pass, .happen (.wake .opened)]
    let alarm : List Guarded.Act :=
      [.poll 0 0, .poll 0 1000, .call 0, .call 0, .call 0, .poll 0 1000, .poll 0 3000]
    ∃ t g, (Timer.start 3 windows 0).run localTime acts = some t ∧ t.IsPunctual localTime 0
      ∧ t.alarms = [4, 10] ∧ t.stops = [11]
      ∧ (Watchdog.start 3 windows 0).alarmsBefore localTime 20 inputs = [4, 10]
      ∧ IsDue localTime 3 windows 0 [1] [11] 10
      ∧ (Guarded.ofCourse (.ofConnection c)).run localTime (opening ++ alarm) = some g
      ∧ g.requests = [0] ∧ g.requests.Nodup ∧ g.course.connection.reconnects = 1 := by
  intro localTime windows acts inputs config c pass opening alarm
  let t : Timer :=
    { timeout := 3, windows, task := ⟨none, false, true, true⟩, now := 11, ahead := 11,
      signals := [1], stops := [11], alarms := [4, 10] }
  have hrun : (Timer.start 3 windows 0).run localTime acts = some t := by decide +kernel
  have hseen : ((Guarded.ofCourse (.ofConnection c)).run localTime (opening ++ alarm)).map
      (fun g => (g.requests, g.course.connection.reconnects)) = some ([0], 1) := by decide +kernel
  obtain ⟨g, hguarded, hboth⟩ := Option.map_eq_some_iff.mp hseen
  obtain ⟨hrequests, hcount⟩ := Prod.mk.inj hboth
  obtain ⟨hclock, hinputs, hconnection⟩ := Watchdog.punctual
  obtain ⟨-, hmem⟩ := hinputs localTime 3 windows 0 20 inputs (by decide) (by decide)
  exact ⟨t, g, hrun, (hclock localTime 3 windows 0 acts t (by decide) hrun).1, rfl, rfl, rfl,
    ((hmem 10).mp (by decide)).2, hguarded, hrequests,
    (hconnection localTime config true none .empty (opening ++ alarm) g hguarded).1, hcount⟩

end ReviewStream
