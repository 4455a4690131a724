import Mathlib.Tactic.ByContra
import Mathlib.Tactic.Lemma
import Mathlib.Tactic.SplitIfs
import ReviewStream.Watchdog.Basic
import ReviewStream.Watchdog.Task

/-!
# When the alarm is raised

The alarm is due whenever the silence since the start or since a sign of life has lasted for a full
number of timeouts, unless the moment is exempt or the watchdog was stopped before.

* `IsDue`: what it is for the alarm to be due at a moment.
* `Timer.Sound`: what is always true of a watchdog on a clock.
* **`Timer.sound_of_run`**: the alarm has been raised at the moments when it was due.
* **`Watchdog.mem_alarmsBefore_iff`**: a watchdog that is run from one input to the next raises it
  at the same moments.
-/

namespace ReviewStream

variable {localTime : Nat → LocalTime} {timeout : Nat} {windows : List Window} {start a b n : Nat}
  {signals stops : List Nat}

/-! ## The task -/

/-- What the task can do in a step. -/
inductive WatchdogTask.Polls (timeout now : Nat) (t : WatchdogTask) : WatchdogTask × Bool → Prop
  | ended (hended : t.ended = true) : Polls timeout now t (t, false)
  | leave (hended : t.ended = false) (hcancelled : t.cancelled = true) :
      Polls timeout now t ({ t with ended := true }, false)
  | heed (hended : t.ended = false) (hcancelled : t.cancelled = false) (hpermit : t.permit = true) :
      Polls timeout now t ({ t with deadline := none, permit := false }, false)
  | sleep (hended : t.ended = false) (hcancelled : t.cancelled = false)
      (hpermit : t.permit = false) (hdeadline : t.deadline = none) :
      Polls timeout now t ({ t with deadline := some (now + timeout) }, false)
  | expire {d : Nat} (hended : t.ended = false) (hcancelled : t.cancelled = false)
      (hpermit : t.permit = false) (hdeadline : t.deadline = some d) (hd : d ≤ now) :
      Polls timeout now t ({ t with deadline := none }, true)
  | rest {d : Nat} (hended : t.ended = false) (hcancelled : t.cancelled = false)
      (hpermit : t.permit = false) (hdeadline : t.deadline = some d) (hd : now < d) :
      Polls timeout now t (t, false)

lemma WatchdogTask.poll_spec (timeout now : Nat) (t : WatchdogTask) :
    t.Polls timeout now (t.poll timeout now) := by
  rw [poll]
  split_ifs with hended hcancelled hpermit
  · exact .ended hended
  · exact .leave (Bool.eq_false_iff.mpr hended) hcancelled
  · exact .heed (Bool.eq_false_iff.mpr hended) (Bool.eq_false_iff.mpr hcancelled) hpermit
  · rw [Bool.not_eq_true] at hended hcancelled hpermit
    cases hdeadline : t.deadline with
    | none => exact .sleep hended hcancelled hpermit hdeadline
    | some d =>
        dsimp only
        split_ifs with hd
        · exact .expire hended hcancelled hpermit hdeadline hd
        · exact .rest hended hcancelled hpermit hdeadline (Nat.lt_of_not_le hd)

/-- A task that is neither stopped nor at its end rests only in its sleep. -/
lemma WatchdogTask.asleep_of_rests {now : Nat} {t : WatchdogTask} (hended : t.ended = false)
    (hcancelled : t.cancelled = false) (h : t.rests now = true) :
    t.permit = false ∧ ∃ d, t.deadline = some d ∧ now < d := by
  simpa [rests, hended, hcancelled, Option.any_eq_true] using h

lemma WatchdogTask.rests_of_polls {timeout : Nat} (htimeout : 0 < timeout) (now : Nat)
    (t : WatchdogTask) : ((t.poll timeout now).1.poll timeout now).1.rests now = true := by
  have hpoll := t.poll_spec timeout now
  generalize t.poll timeout now = first at hpoll
  have hpoll' := first.1.poll_spec timeout now
  generalize first.1.poll timeout now = second at hpoll'
  have hlater : now < now + timeout := Nat.lt_add_of_pos_right htimeout
  cases hpoll <;> cases hpoll' <;> simp_all [rests] <;> omega

/-! ## Moments of alarm -/

/-- At a moment the silence since the start or since the last sign of life has lasted for a full
number of timeouts, and for one at least. -/
def FullSilence (timeout start : Nat) (signals : List Nat) (a : Nat) : Prop :=
  ∃ r ∈ start :: signals, ∃ k, 0 < k ∧ a = r + k * timeout ∧ ∀ u ∈ signals, u ≤ r ∨ a < u

/-- At a moment the alarm is due. -/
structure IsDue (localTime : Nat → LocalTime) (timeout : Nat) (windows : List Window) (start : Nat)
    (signals stops : List Nat) (a : Nat) : Prop where
  silence : FullSilence timeout start signals a
  beforeStop : ∀ u ∈ stops, a < u
  notExempt : isExempt windows (localTime a) = false

lemma FullSilence.start_add_le (h : FullSilence timeout start signals a)
    (hstart : ∀ u ∈ signals, start ≤ u) : start + timeout ≤ a := by
  obtain ⟨r, hr, k, hk, rfl, -⟩ := h
  have hle : start ≤ r := by
    rcases List.mem_cons.mp hr with rfl | hmem
    · exact Nat.le_refl r
    · exact hstart r hmem
  have htimeout : timeout ≤ k * timeout := Nat.le_mul_of_pos_left timeout hk
  omega

/-- Between two moments of full silence there is a timeout at least. -/
lemma FullSilence.add_le (ha : FullSilence timeout start signals a)
    (hb : FullSilence timeout start signals b) (hstart : ∀ u ∈ signals, start ≤ u) (hlt : a < b) :
    a + timeout ≤ b := by
  obtain ⟨r, hr, j, hj, hja, hsilent⟩ := ha
  obtain ⟨s, hs, k, hk, hkb, hsilent'⟩ := hb
  have htimeout : timeout ≤ k * timeout := Nat.le_mul_of_pos_left timeout hk
  have hle : r ≤ s := by
    rcases List.mem_cons.mp hr with rfl | hmem
    · rcases List.mem_cons.mp hs with rfl | hmem'
      · exact Nat.le_refl s
      · exact hstart s hmem'
    · rcases hsilent' r hmem with hle | hafter
      · exact hle
      · omega
  rcases Nat.eq_or_lt_of_le hle with rfl | hrs
  · -- the same silence: more timeouts have gone by
    have hjk : j < k := by
      by_contra hkj
      have hmul : k * timeout ≤ j * timeout := Nat.mul_le_mul_right timeout (by omega)
      omega
    have hmul : (j + 1) * timeout ≤ k * timeout := Nat.mul_le_mul_right timeout hjk
    rw [Nat.add_mul, Nat.one_mul] at hmul
    omega
  · -- a later silence begins only after the first moment
    have hmem : s ∈ signals := by
      rcases List.mem_cons.mp hs with rfl | hmem
      · rcases List.mem_cons.mp hr with rfl | hmem'
        · omega
        · have := hstart r hmem'
          omega
      · exact hmem
    rcases hsilent s hmem with hsr | has
    · omega
    · omega

/-- A sign of life has no influence on earlier moments. -/
lemma fullSilence_append_iff (hlt : a < n) :
    FullSilence timeout start (signals ++ [n]) a ↔ FullSilence timeout start signals a := by
  constructor
  · rintro ⟨r, hr, k, hk, hka, hsilent⟩
    have hne : r ≠ n := by omega
    refine ⟨r, by simpa [hne] using hr, k, hk, hka, fun u hu => ?_⟩
    exact hsilent u (List.mem_append_left _ hu)
  · rintro ⟨r, hr, k, hk, hka, hsilent⟩
    refine ⟨r, ?_, k, hk, hka, fun u hu => ?_⟩
    · rcases List.mem_cons.mp hr with rfl | hmem
      · exact List.mem_cons_self
      · exact List.mem_cons_of_mem _ (List.mem_append_left _ hmem)
    · rcases List.mem_append.mp hu with hmem | hlast
      · exact hsilent u hmem
      · rw [List.mem_singleton.mp hlast]
        exact .inr hlt

lemma fullSilence_iff_of_lt (h : ∀ u ∈ signals, a < u) :
    FullSilence timeout start signals a ↔ ∃ k, 0 < k ∧ a = start + k * timeout := by
  constructor
  · rintro ⟨r, hr, k, hk, hka, -⟩
    rcases List.mem_cons.mp hr with rfl | hmem
    · exact ⟨k, hk, hka⟩
    · have := h r hmem
      omega
  · rintro ⟨k, hk, hka⟩
    exact ⟨start, List.mem_cons_self, k, hk, hka, fun u hu => .inr (h u hu)⟩

/-- From a sign of life on silence is counted anew. -/
lemma fullSilence_cons_iff (hstart : start ≤ n) (hafter : ∀ u ∈ signals, n ≤ u) (hle : n ≤ a) :
    FullSilence timeout start (n :: signals) a ↔ FullSilence timeout n signals a := by
  constructor
  · rintro ⟨r, hr, k, hk, hka, hsilent⟩
    refine ⟨r, ?_, k, hk, hka, fun u hu => hsilent u (List.mem_cons_of_mem n hu)⟩
    rcases List.mem_cons.mp hr with rfl | hmem
    · have hnr : n ≤ r ∨ a < n := hsilent n List.mem_cons_self
      obtain rfl : r = n := by omega
      exact List.mem_cons_self
    · exact hmem
  · rintro ⟨r, hr, k, hk, hka, hsilent⟩
    refine ⟨r, List.mem_cons_of_mem start hr, k, hk, hka, fun u hu => ?_⟩
    rcases List.mem_cons.mp hu with rfl | hmem
    · rcases List.mem_cons.mp hr with rfl | hmem
      · exact .inl (Nat.le_refl _)
      · exact .inl (hafter r hmem)
    · exact hsilent u hmem

/-! ## On a clock -/

namespace Timer

variable {t t' : Timer}

/-- The alarm is due by what has happened to a watchdog that started at a moment. -/
def Due (localTime : Nat → LocalTime) (start : Nat) (t : Timer) (a : Nat) : Prop :=
  IsDue localTime t.timeout t.windows start t.signals t.stops a

/-- How a watchdog that is not stopped waits: since `r` there has been no sign of life, and the last
sleep began a full number of timeouts later. -/
structure Waits (start : Nat) (t : Timer) (r : Nat) : Prop where
  mem : r ∈ start :: t.signals
  last : ∀ u ∈ start :: t.signals, u ≤ r
  stops : t.stops = []
  ended : t.task.ended = false
  /-- A sign of life that the task has not seen was given just now. -/
  fresh : t.task.permit = true → r = t.now ∧ t.ahead = t.now
  asleep : t.task.permit = false → ∃ k, ∃ begin, begin = r + k * t.timeout
    ∧ t.task.deadline.getD (t.now + t.timeout) = begin + t.timeout
    ∧ begin ≤ t.now ∧ t.now ≤ begin + t.timeout
    ∧ (begin = t.now → k = 0 ∨ t.ahead = t.now + 1) ∧ (t.ahead = t.now + 1 → begin = t.now)

/-- What is always true of a watchdog that started at a moment. -/
structure Sound (localTime : Nat → LocalTime) (start : Nat) (t : Timer) : Prop where
  ahead : t.ahead = t.now ∨ t.ahead = t.now + 1
  start_le : ∀ u ∈ t.signals, start ≤ u
  le_now : ∀ u ∈ start :: t.signals, u ≤ t.now
  ascending : t.alarms.Pairwise (· < ·)
  mem_alarms : ∀ a, a ∈ t.alarms ↔ a < t.ahead ∧ t.Due localTime start a
  waits : t.task.cancelled = false → ∃ r, t.Waits start r
  stopped : t.task.cancelled = true → ∃ u ∈ t.stops, u ≤ t.ahead

lemma sound_start (timeout : Nat) (windows : List Window) (start : Nat) :
    (Timer.start timeout windows start).Sound localTime start where
  ahead := .inl rfl
  start_le := nofun
  le_now := by simp [Timer.start]
  ascending := .nil
  mem_alarms a := by
    refine ⟨nofun, fun ⟨hlt, hdue⟩ => ?_⟩
    have hle : start + timeout ≤ a := hdue.silence.start_add_le nofun
    have hlt' : a < start := hlt
    omega
  waits _ := by
    refine ⟨start, List.mem_singleton_self start, by simp [Timer.start], rfl, rfl, nofun, ?_⟩
    intro _
    exact ⟨0, start, by simp, rfl, Nat.le_refl _, Nat.le_add_right _ _, fun _ => .inl rfl,
      fun _ => rfl⟩
  stopped := nofun

/-! ### Steps -/

lemma Sound.signal (h : t.Sound localTime start)
    (hstep : t.step localTime .signal = some t') : t'.Sound localTime start := by
  rw [step] at hstep
  split_ifs at hstep with hahead
  obtain rfl := Option.some.inj hstep
  have hnow : t.ahead = t.now := by
    have := h.ahead
    omega
  have hstart : start ≤ t.now := h.le_now start List.mem_cons_self
  have hsame : ∀ u ∈ start :: (t.signals ++ [t.now]), u ≤ t.now := by
    intro u hu
    rw [← List.cons_append, List.mem_append, List.mem_singleton] at hu
    rcases hu with hmem | rfl
    · exact h.le_now u hmem
    · exact Nat.le_refl _
  refine ⟨h.ahead, fun u hu => ?_, hsame, h.ascending, fun a => ?_, fun hgo => ?_, h.stopped⟩
  · rcases List.mem_append.mp hu with hmem | hlast
    · exact h.start_le u hmem
    · rw [List.mem_singleton.mp hlast]
      exact hstart
  · rw [h.mem_alarms a, hnow]
    refine and_congr_right fun hlt => ⟨fun hdue => ?_, fun hdue => ?_⟩
    · exact ⟨(fullSilence_append_iff hlt).mpr hdue.silence, hdue.beforeStop, hdue.notExempt⟩
    · exact ⟨(fullSilence_append_iff hlt).mp hdue.silence, hdue.beforeStop, hdue.notExempt⟩
  · obtain ⟨r, hwaits⟩ := h.waits hgo
    exact ⟨t.now, by simp, hsame, hwaits.stops, hwaits.ended, fun _ => ⟨rfl, hnow⟩, nofun⟩

lemma Sound.stop (h : t.Sound localTime start) (hstep : t.step localTime .stop = some t') :
    t'.Sound localTime start := by
  obtain rfl := Option.some.inj hstep
  refine ⟨h.ahead, h.start_le, h.le_now, h.ascending, fun a => ?_, nofun, fun _ => ?_⟩
  · rw [h.mem_alarms a]
    refine and_congr_right fun hlt => ⟨fun hdue => ?_, fun hdue => ?_⟩
    · refine ⟨hdue.silence, fun u hu => ?_, hdue.notExempt⟩
      rcases List.mem_append.mp hu with hmem | hlast
      · exact hdue.beforeStop u hmem
      · rw [List.mem_singleton.mp hlast]
        exact hlt
    · exact ⟨hdue.silence, fun u hu => hdue.beforeStop u (List.mem_append_left _ hu),
        hdue.notExempt⟩
  · exact ⟨t.ahead, by simp, Nat.le_refl _⟩

/-- What the task does to itself alone. -/
lemma Sound.of_task (h : t.Sound localTime start) {task : WatchdogTask}
    (hcancelled : task.cancelled = t.task.cancelled)
    (hwaits : ∀ r, t.task.cancelled = false → t.Waits start r → { t with task }.Waits start r) :
    { t with task }.Sound localTime start where
  ahead := h.ahead
  start_le := h.start_le
  le_now := h.le_now
  ascending := h.ascending
  mem_alarms := h.mem_alarms
  waits hgo := by
    have hgo : t.task.cancelled = false := hcancelled.symm.trans hgo
    obtain ⟨r, hr⟩ := h.waits hgo
    exact ⟨r, hwaits r hgo hr⟩
  stopped hstop := h.stopped (hcancelled.symm.trans hstop)

/-- The timeout expires: the silence is a full one, and the alarm is raised unless the moment is
exempt. -/
lemma Sound.expire (h : t.Sound localTime start) (htimeout : 0 < t.timeout) {d : Nat}
    (hcancelled : t.task.cancelled = false) (hpermit : t.task.permit = false)
    (hdeadline : t.task.deadline = some d) (hd : d ≤ t.now) :
    { t with
      task := { t.task with deadline := none }, ahead := t.now + 1,
      alarms := if isExempt t.windows (localTime t.now) then t.alarms
        else t.alarms ++ [t.now] }.Sound localTime start := by
  obtain ⟨r, hwaits⟩ := h.waits hcancelled
  obtain ⟨k, begin, hbegin, hsleep, hle, hge, -, hahead⟩ := hwaits.asleep hpermit
  rw [hdeadline, Option.getD_some] at hsleep
  have hnow : t.now = begin + t.timeout := by omega
  have hnext : t.ahead = t.now := by
    rcases h.ahead with heq | heq
    · exact heq
    · have := hahead heq
      omega
  have hfull : t.now = r + (k + 1) * t.timeout := by
    rw [Nat.add_mul, Nat.one_mul]
    omega
  have hsilence : FullSilence t.timeout start t.signals t.now :=
    ⟨r, hwaits.mem, k + 1, Nat.succ_pos k, hfull,
      fun u hu => .inl (hwaits.last u (List.mem_cons_of_mem _ hu))⟩
  have hdue : t.Due localTime start t.now ↔ isExempt t.windows (localTime t.now) = false :=
    ⟨fun h => h.notExempt, fun h => ⟨hsilence, by simp [hwaits.stops], h⟩⟩
  have hbefore : ∀ a ∈ t.alarms, a < t.now := fun a ha => hnext ▸ ((h.mem_alarms a).mp ha).1
  have hmem (a : Nat) : a < t.now + 1 ∧ t.Due localTime start a ↔
      a ∈ t.alarms ∨ a = t.now ∧ isExempt t.windows (localTime t.now) = false := by
    rw [h.mem_alarms a, hnext, ← hdue, Nat.lt_add_one_iff_lt_or_eq, or_and_right]
    refine or_congr_right (and_congr_right fun heq => ?_)
    rw [heq]
  refine ⟨.inr rfl, h.start_le, h.le_now, ?_, fun a => ?_, fun _ => ?_, ?_⟩
  · dsimp only
    split_ifs
    · exact h.ascending
    · refine List.pairwise_append.mpr ⟨h.ascending, List.pairwise_singleton _ _, ?_⟩
      intro a ha b hb
      rw [List.mem_singleton.mp hb]
      exact hbefore a ha
  · refine Iff.trans ?_ (hmem a).symm
    dsimp only
    split_ifs with hexempt <;> simp [hexempt]
  · refine ⟨r, hwaits.mem, hwaits.last, hwaits.stops, hwaits.ended, fun hp => ?_, fun _ => ?_⟩
    · exact absurd (hpermit.symm.trans hp) Bool.false_ne_true
    · exact ⟨k + 1, t.now, hfull, rfl, Nat.le_refl _, Nat.le_add_right _ _, fun _ => .inr rfl,
        fun _ => rfl⟩
  · intro hstop
    exact absurd (hcancelled.symm.trans hstop) Bool.false_ne_true

lemma Sound.turn (h : t.Sound localTime start) (htimeout : 0 < t.timeout)
    (hstep : t.step localTime .turn = some t') : t'.Sound localTime start := by
  have hpoll := t.task.poll_spec t.timeout t.now
  rw [step] at hstep
  generalize t.task.poll t.timeout t.now = polled at hpoll hstep
  obtain rfl := Option.some.inj hstep
  cases hpoll with
  | ended | rest => exact h
  | leave _ hcancelled =>
      refine h.of_task rfl fun r hgo => ?_
      rw [hcancelled] at hgo
      cases hgo
  | heed _ _ hpermit =>
      refine h.of_task rfl fun r _ hr => ?_
      obtain ⟨hnow, hahead⟩ := hr.fresh hpermit
      refine ⟨hr.mem, hr.last, hr.stops, hr.ended, nofun, fun _ => ?_⟩
      exact ⟨0, t.now, by simp [hnow], rfl, Nat.le_refl _, Nat.le_add_right _ _,
        fun _ => .inl rfl, fun _ => rfl⟩
  | sleep _ _ hpermit hdeadline =>
      refine h.of_task rfl fun r _ hr => ?_
      have hasleep := hr.asleep hpermit
      rw [hdeadline] at hasleep
      exact ⟨hr.mem, hr.last, hr.stops, hr.ended, hr.fresh, fun _ => hasleep⟩
  | expire _ hcancelled hpermit hdeadline hd =>
      exact h.expire htimeout hcancelled hpermit hdeadline hd

/-- At a moment at which the task rests the alarm is due only if it has been raised. -/
lemma Sound.not_due_of_rests (h : t.Sound localTime start) (htimeout : 0 < t.timeout)
    (hrests : t.task.rests t.now = true) (hahead : t.ahead = t.now) :
    ¬t.Due localTime start t.now := by
  intro hdue
  cases hcancelled : t.task.cancelled with
  | true =>
      obtain ⟨u, hu, hle⟩ := h.stopped hcancelled
      have hlt : t.now < u := hdue.beforeStop u hu
      omega
  | false =>
      obtain ⟨r, hwaits⟩ := h.waits hcancelled
      obtain ⟨hpermit, d, hdeadline, hd⟩ :=
        WatchdogTask.asleep_of_rests hwaits.ended hcancelled hrests
      obtain ⟨k, begin, hbegin, hsleep, hle, -, hnow, -⟩ := hwaits.asleep hpermit
      rw [hdeadline, Option.getD_some] at hsleep
      obtain ⟨s, hs, j, hj, hjs, hsilent⟩ := hdue.silence
      -- both silences have begun at the same moment
      have hsr : s ≤ r := hwaits.last s hs
      have hrs : r ≤ s := by
        rcases List.mem_cons.mp hwaits.mem with rfl | hmem
        · rcases List.mem_cons.mp hs with rfl | hmem
          · exact Nat.le_refl _
          · exact h.start_le s hmem
        · rcases hsilent r hmem with hle | hlt
          · exact hle
          · have := h.le_now r hwaits.mem
            omega
      obtain rfl := Nat.le_antisymm hsr hrs
      have hkj : k ≤ j := Nat.le_of_mul_le_mul_right (by omega) htimeout
      have hjk : j < k + 1 := by
        refine Nat.lt_of_mul_lt_mul_right (a := t.timeout) ?_
        rw [Nat.add_mul, Nat.one_mul]
        omega
      obtain rfl : j = k := by omega
      rcases hnow (by omega) with hzero | hnext
      · omega
      · omega

lemma Sound.tick (h : t.Sound localTime start) (htimeout : 0 < t.timeout)
    (hstep : t.step localTime .tick = some t') : t'.Sound localTime start := by
  rw [step] at hstep
  split_ifs at hstep with hrests
  obtain rfl := Option.some.inj hstep
  refine ⟨.inl rfl, h.start_le, fun u hu => Nat.le_succ_of_le (h.le_now u hu), h.ascending,
    fun a => ?_, fun hgo => ?_, fun hstop => ?_⟩
  · rcases h.ahead with hahead | hahead
    · have hnot := h.not_due_of_rests htimeout hrests hahead
      rw [h.mem_alarms a, hahead]
      refine ⟨fun ⟨hlt, hdue⟩ => ⟨Nat.lt_succ_of_lt hlt, hdue⟩, fun ⟨hlt, hdue⟩ => ⟨?_, hdue⟩⟩
      rcases Nat.lt_or_eq_of_le (Nat.le_of_lt_succ hlt) with hlt | rfl
      · exact hlt
      · exact absurd hdue hnot
    · rw [h.mem_alarms a, hahead]
      exact Iff.rfl
  · obtain ⟨r, hr⟩ := h.waits hgo
    obtain ⟨hpermit, d, hdeadline, hd⟩ := WatchdogTask.asleep_of_rests hr.ended hgo hrests
    obtain ⟨k, begin, hbegin, hsleep, hle, -, -, -⟩ := hr.asleep hpermit
    rw [hdeadline, Option.getD_some] at hsleep
    refine ⟨r, hr.mem, hr.last, hr.stops, hr.ended, fun hp => ?_, fun _ => ?_⟩
    · exact absurd (hpermit.symm.trans hp) Bool.false_ne_true
    · refine ⟨k, begin, hbegin, ?_, ?_, ?_, ?_, ?_⟩
      · rw [hdeadline]
        exact hsleep
      all_goals dsimp only; omega
  · obtain ⟨u, hu, hle⟩ := h.stopped hstop
    have hnext : t.ahead ≤ t.now + 1 := by
      have := h.ahead
      omega
    exact ⟨u, hu, Nat.le_trans hle hnext⟩

lemma step_frame {act : Act} (hstep : t.step localTime act = some t') :
    t'.timeout = t.timeout ∧ t'.windows = t.windows := by
  cases act with
  | signal | tick =>
      rw [step] at hstep
      split_ifs at hstep
      obtain rfl := Option.some.inj hstep
      exact ⟨rfl, rfl⟩
  | stop =>
      obtain rfl := Option.some.inj hstep
      exact ⟨rfl, rfl⟩
  | turn =>
      obtain rfl := Option.some.inj hstep
      split_ifs <;> exact ⟨rfl, rfl⟩

lemma Sound.step {act : Act} (h : t.Sound localTime start) (htimeout : 0 < t.timeout)
    (hstep : t.step localTime act = some t') : t'.Sound localTime start := by
  cases act with
  | signal => exact h.signal hstep
  | stop => exact h.stop hstep
  | turn => exact h.turn htimeout hstep
  | tick => exact h.tick htimeout hstep

lemma Sound.run (htimeout : 0 < t.timeout) {acts : List Act} (h : t.Sound localTime start)
    (hrun : t.run localTime acts = some t') :
    t'.Sound localTime start ∧ t'.timeout = t.timeout ∧ t'.windows = t.windows := by
  induction acts generalizing t with
  | nil =>
      cases hrun
      exact ⟨h, rfl, rfl⟩
  | cons act rest ih =>
      obtain ⟨next, hstep, hrest⟩ := Option.bind_eq_some_iff.mp hrun
      obtain ⟨hsame, hwindows⟩ := step_frame hstep
      obtain ⟨hsound, hsame', hwindows'⟩ :=
        ih (hsame.symm ▸ htimeout) (h.step htimeout hstep) hrest
      exact ⟨hsound, hsame'.trans hsame, hwindows'.trans hwindows⟩

/-- A watchdog raises the alarm when it is due, and at no other moment. -/
structure IsPunctual (localTime : Nat → LocalTime) (start : Nat) (t : Timer) : Prop where
  /-- There is one alarm at most in every timeout. -/
  spaced : t.alarms.Pairwise fun a b => a + t.timeout ≤ b
  due : ∀ a ∈ t.alarms, a ≤ t.now ∧ t.Due localTime start a
  /-- No alarm is left out, not even at present if the task has nothing left to do. -/
  raised : ∀ a, t.Due localTime start a → a < t.now ∨ a = t.now ∧ t.task.rests t.now = true →
    a ∈ t.alarms
  /-- There is no alarm when there was a sign of life within the last timeout. -/
  silent : ∀ a ∈ t.alarms, ∀ u ∈ t.signals, u ≤ a → u + t.timeout ≤ a

lemma Sound.isPunctual (h : t.Sound localTime start) (htimeout : 0 < t.timeout) :
    t.IsPunctual localTime start where
  spaced := by
    refine h.ascending.imp_of_mem fun ha hb hlt => ?_
    exact ((h.mem_alarms _).mp ha).2.silence.add_le ((h.mem_alarms _).mp hb).2.silence h.start_le
      hlt
  due a ha := by
    obtain ⟨hlt, hdue⟩ := (h.mem_alarms a).mp ha
    refine ⟨?_, hdue⟩
    have := h.ahead
    omega
  raised a hdue hmoment := by
    refine (h.mem_alarms a).mpr ⟨?_, hdue⟩
    rcases hmoment with hlt | ⟨rfl, hrests⟩
    · have := h.ahead
      omega
    · rcases h.ahead with hahead | hahead
      · exact absurd hdue (h.not_due_of_rests htimeout hrests hahead)
      · omega
  silent a ha u hu hle := by
    obtain ⟨r, -, k, hk, hka, hsilent⟩ := ((h.mem_alarms a).mp ha).2.silence
    have hpos : t.timeout ≤ k * t.timeout := Nat.le_mul_of_pos_left t.timeout hk
    rcases hsilent u hu with hur | hau <;> omega

lemma step_turn (hstep : t.step localTime .turn = some t') :
    t'.task = (t.task.poll t.timeout t.now).1 ∧ t'.timeout = t.timeout ∧ t'.now = t.now := by
  rw [step] at hstep
  generalize t.task.poll t.timeout t.now = polled at hstep ⊢
  obtain rfl := Option.some.inj hstep
  split_ifs <;> exact ⟨rfl, rfl, rfl⟩

/-- After two turns the task has nothing left to do, so that time can go on. -/
lemma rests_of_turns (htimeout : 0 < t.timeout) (h : t.run localTime [.turn, .turn] = some t') :
    t'.task.rests t'.now = true := by
  obtain ⟨next, hfirst, hrest⟩ := Option.bind_eq_some_iff.mp h
  obtain ⟨last, hsecond, hlast⟩ := Option.bind_eq_some_iff.mp hrest
  obtain rfl : last = t' := Option.some.inj hlast
  obtain ⟨htask, hsame, hnow⟩ := step_turn hfirst
  obtain ⟨htask', -, hnow'⟩ := step_turn hsecond
  rw [htask', hnow', hsame, hnow, htask]
  exact WatchdogTask.rests_of_polls htimeout t.now t.task

/-- **A watchdog raises the alarm exactly when it is due**, whatever happens to it after its start;
and its clock can always go on. -/
theorem punctual_of_run (htimeout : 0 < timeout) {acts : List Act}
    (hrun : (Timer.start timeout windows start).run localTime acts = some t) :
    t.IsPunctual localTime start ∧ t.timeout = timeout ∧ t.windows = windows
      ∧ ∀ t', t.run localTime [.turn, .turn] = some t' → t'.task.rests t'.now = true := by
  obtain ⟨hsound, hsame, hwindows⟩ :=
    Sound.run htimeout (sound_start timeout windows start) hrun
  have hpositive : 0 < t.timeout := hsame.symm ▸ htimeout
  exact ⟨hsound.isPunctual hpositive, hsame, hwindows, fun t' => rests_of_turns hpositive⟩

end Timer

/-! ## From input to input -/

namespace Watchdog

variable {w : Watchdog} {moment : Nat} {inputs : List (Nat × Input)}

/-- The moments of one kind of input. -/
def momentsOf (x : Input) (inputs : List (Nat × Input)) : List Nat :=
  (inputs.filter (·.2 = x)).map Prod.fst

lemma nextExpiry?_eq (hrunning : w.running = true) (htimeout : 0 < w.timeout) :
    w.nextExpiry? = some (w.since + w.timeout) := by
  rw [nextExpiry?, if_pos]
  simp [hrunning, Nat.ne_of_gt htimeout]

/-- A number of timeouts is one timeout, or one and then some more. -/
lemma exists_timeouts_iff {since timeout : Nat} :
    (∃ k, 0 < k ∧ a = since + k * timeout) ↔
      a = since + timeout ∨ ∃ k, 0 < k ∧ a = since + timeout + k * timeout := by
  constructor
  · rintro ⟨k, hk, rfl⟩
    obtain _ | _ | k := k
    · cases hk
    · exact .inl (by rw [Nat.zero_add, Nat.one_mul])
    · refine .inr ⟨k + 1, Nat.succ_pos k, ?_⟩
      rw [Nat.add_mul (k + 1), Nat.one_mul]
      omega
  · rintro (rfl | ⟨k, hk, rfl⟩)
    · exact ⟨1, Nat.one_pos, by rw [Nat.one_mul]⟩
    · refine ⟨k + 1, Nat.succ_pos k, ?_⟩
      rw [Nat.add_mul, Nat.one_mul]
      omega

lemma runWithin_frame (localTime : Nat → LocalTime) (moment fuel : Nat) (w : Watchdog) :
    (runWithin localTime moment fuel w).2.timeout = w.timeout
      ∧ (runWithin localTime moment fuel w).2.windows = w.windows
      ∧ (runWithin localTime moment fuel w).2.running = w.running := by
  induction fuel generalizing w with
  | zero => exact ⟨rfl, rfl, rfl⟩
  | succ fuel ih =>
      rw [runWithin]
      split
      · exact ⟨rfl, rfl, rfl⟩
      · split
        · exact ih _
        · exact ⟨rfl, rfl, rfl⟩

/-- A sign of life has the watchdog count from its moment, whatever has expired before. -/
lemma receive_signal (hrunning : w.running = true) (localTime : Nat → LocalTime) (n : Nat) :
    (w.runBefore localTime n).2.receive n .signal = w.restart n := by
  obtain ⟨htimeout, hwindows, hstill⟩ := runWithin_frame localTime n (n - w.since) w
  rw [receive, runBefore, if_pos (hstill.trans hrunning), restart, restart, htimeout, hwindows,
    hstill]

/-- The expiries up to a moment come one timeout after the other. -/
lemma mem_runWithin_iff {fuel : Nat} (hrunning : w.running = true) (htimeout : 0 < w.timeout)
    (hfuel : moment ≤ w.since + fuel) :
    a ∈ (runWithin localTime moment fuel w).1 ↔ a < moment
      ∧ (∃ k, 0 < k ∧ a = w.since + k * w.timeout) ∧ isExempt w.windows (localTime a) = false := by
  induction fuel generalizing w with
  | zero =>
      refine ⟨nofun, fun ⟨hlt, ⟨k, _, hka⟩, _⟩ => ?_⟩
      omega
  | succ fuel ih =>
      rw [runWithin, nextExpiry?_eq hrunning htimeout, exists_timeouts_iff]
      by_cases hlt : w.since + w.timeout < moment
      · have hlater := ih (w := w.restart (w.since + w.timeout)) hrunning htimeout
          (show moment ≤ w.since + w.timeout + fuel by omega)
        simp only [if_pos hlt]
        split_ifs with halarm
        · have hgo : isExempt w.windows (localTime (w.since + w.timeout)) = false := by
            simpa [alarms] using halarm
          rw [List.mem_cons, hlater]
          constructor
          · rintro (rfl | ⟨hmoment, hk, hexempt⟩)
            · exact ⟨hlt, .inl rfl, hgo⟩
            · exact ⟨hmoment, .inr hk, hexempt⟩
          · rintro ⟨hmoment, rfl | hk, hexempt⟩
            · exact .inl rfl
            · exact .inr ⟨hmoment, hk, hexempt⟩
        · have hstay : isExempt w.windows (localTime (w.since + w.timeout)) = true := by
            simpa [alarms] using halarm
          rw [hlater]
          constructor
          · rintro ⟨hmoment, hk, hexempt⟩
            exact ⟨hmoment, .inr hk, hexempt⟩
          · rintro ⟨hmoment, rfl | hk, hexempt⟩
            · rw [hstay] at hexempt
              cases hexempt
            · exact ⟨hmoment, hk, hexempt⟩
      · simp only [if_neg hlt]
        refine ⟨nofun, ?_⟩
        rintro ⟨hmoment, rfl | ⟨k, _, rfl⟩, _⟩ <;> omega

lemma mem_runBefore_iff (hrunning : w.running = true) (htimeout : 0 < w.timeout) :
    a ∈ (w.runBefore localTime moment).1 ↔ a < moment
      ∧ (∃ k, 0 < k ∧ a = w.since + k * w.timeout)
      ∧ isExempt w.windows (localTime a) = false := by
  rw [runBefore]
  exact mem_runWithin_iff hrunning htimeout (by omega)

lemma pairwise_runWithin {fuel : Nat} (hrunning : w.running = true) (htimeout : 0 < w.timeout)
    (hfuel : moment ≤ w.since + fuel) :
    (runWithin localTime moment fuel w).1.Pairwise (· < ·) := by
  induction fuel generalizing w with
  | zero => exact .nil
  | succ fuel ih =>
      rw [runWithin, nextExpiry?_eq hrunning htimeout]
      by_cases hlt : w.since + w.timeout < moment
      · have hfuel : moment ≤ (w.restart (w.since + w.timeout)).since + fuel := by
          change moment ≤ w.since + w.timeout + fuel
          omega
        simp only [if_pos hlt]
        split_ifs
        · refine List.pairwise_cons.mpr ⟨fun b hb => ?_, ih hrunning htimeout hfuel⟩
          obtain ⟨-, ⟨k, hk, rfl⟩, -⟩ :=
            (mem_runWithin_iff (w := w.restart (w.since + w.timeout)) hrunning htimeout hfuel).mp hb
          have hpos : 0 < k * w.timeout := Nat.mul_pos hk htimeout
          change w.since + w.timeout < w.since + w.timeout + k * w.timeout
          omega
        · exact ih hrunning htimeout hfuel
      · simp only [if_neg hlt]
        exact .nil

lemma alarmsBefore_of_stopped (hstopped : w.running = false) :
    w.alarmsBefore localTime moment inputs = [] := by
  have hnone (moment : Nat) (w : Watchdog) (h : w.running = false) :
      w.runBefore localTime moment = ([], w) := by
    have hexpiry : w.nextExpiry? = none := by simp [nextExpiry?, h]
    rw [runBefore]
    cases moment - w.since with
    | zero => rfl
    | succ fuel => rw [runWithin, hexpiry]
  induction inputs generalizing w with
  | nil => rw [alarmsBefore, hnone moment w hstopped]
  | cons input rest ih =>
      obtain ⟨t, x⟩ := input
      rw [alarmsBefore, hnone t w hstopped]
      refine ih ?_
      cases x with
      | signal => rw [receive, if_neg (by simp [hstopped])]; exact hstopped
      | stop => rfl

lemma le_of_mem_momentsOf {x : Input} {u : Nat} (hafter : ∀ v ∈ inputs.map Prod.fst, n ≤ v)
    (hu : u ∈ momentsOf x inputs) : n ≤ u := by
  obtain ⟨input, hinput, rfl⟩ := List.mem_map.mp hu
  exact hafter _ (List.mem_map_of_mem (List.mem_filter.mp hinput).1)

/-- A watchdog that is run from one input to the next raises the alarm when it is due. -/
lemma mem_alarmsBefore_iff (hrunning : w.running = true) (htimeout : 0 < w.timeout)
    (hinputs : (w.since :: (inputs.map Prod.fst ++ [moment])).Pairwise (· ≤ ·)) :
    a ∈ w.alarmsBefore localTime moment inputs ↔ a < moment
      ∧ IsDue localTime w.timeout w.windows w.since (momentsOf .signal inputs)
        (momentsOf .stop inputs) a := by
  induction inputs generalizing w with
  | nil =>
      rw [alarmsBefore, mem_runBefore_iff hrunning htimeout]
      refine and_congr_right fun _ => ⟨fun ⟨hk, hexempt⟩ => ?_, fun hdue => ?_⟩
      · exact ⟨(fullSilence_iff_of_lt (by simp [momentsOf])).mpr hk, by simp [momentsOf], hexempt⟩
      · exact ⟨(fullSilence_iff_of_lt (by simp [momentsOf])).mp hdue.silence, hdue.notExempt⟩
  | cons input rest ih =>
      obtain ⟨t, x⟩ := input
      rw [List.map_cons, List.cons_append, List.pairwise_cons, List.pairwise_cons] at hinputs
      obtain ⟨hsince, hafter, hrest⟩ := hinputs
      have hlater (x : Input) : ∀ u ∈ momentsOf x rest, t ≤ u := fun u hu =>
        le_of_mem_momentsOf (fun v hv => hafter v (List.mem_append_left _ hv)) hu
      have hmoment : t ≤ moment := hafter moment (by simp)
      have hsilence (signals : List Nat) (hlt : a < t) (hsignals : ∀ u ∈ signals, t ≤ u) :
          FullSilence w.timeout w.since signals a
            ↔ ∃ k, 0 < k ∧ a = w.since + k * w.timeout :=
        fullSilence_iff_of_lt fun u hu => Nat.lt_of_lt_of_le hlt (hsignals u hu)
      rw [alarmsBefore]
      dsimp only
      rw [List.mem_append, mem_runBefore_iff hrunning htimeout]
      cases x with
      | stop =>
          have hsignals : momentsOf .signal ((t, Input.stop) :: rest) = momentsOf .signal rest :=
            rfl
          have hstops : momentsOf .stop ((t, Input.stop) :: rest) = t :: momentsOf .stop rest := rfl
          rw [receive, alarmsBefore_of_stopped rfl, hsignals, hstops]
          constructor
          · rintro (⟨hlt, hk, hexempt⟩ | hnone)
            · refine ⟨by omega, (hsilence _ hlt (hlater .signal)).mpr hk, fun u hu => ?_, hexempt⟩
              rcases List.mem_cons.mp hu with rfl | hmem
              · exact hlt
              · exact Nat.lt_of_lt_of_le hlt (hlater .stop u hmem)
            · cases hnone
          · rintro ⟨-, hdue⟩
            have hlt : a < t := hdue.beforeStop t List.mem_cons_self
            exact .inl ⟨hlt, (hsilence _ hlt (hlater .signal)).mp hdue.silence, hdue.notExempt⟩
      | signal =>
          have hsignals : momentsOf .signal ((t, Input.signal) :: rest)
            = t :: momentsOf .signal rest := rfl
          have hstops : momentsOf .stop ((t, Input.signal) :: rest) = momentsOf .stop rest := rfl
          have hnext : (t :: (rest.map Prod.fst ++ [moment])).Pairwise (· ≤ ·) :=
            List.pairwise_cons.mpr ⟨hafter, hrest⟩
          have hanew := hlater .signal
          rw [receive_signal hrunning, ih (w := w.restart t) hrunning htimeout hnext, hsignals,
            hstops]
          constructor
          · rintro (⟨hlt, hk, hexempt⟩ | ⟨hmoment', hdue⟩)
            · refine ⟨by omega, (hsilence _ hlt ?_).mpr hk, fun u hu => ?_, hexempt⟩
              · exact List.forall_mem_cons.mpr ⟨Nat.le_refl t, hanew⟩
              · exact Nat.lt_of_lt_of_le hlt (hlater .stop u hu)
            · have hle : t ≤ a := by
                have : t + w.timeout ≤ a := hdue.silence.start_add_le hanew
                omega
              exact ⟨hmoment', (fullSilence_cons_iff (hsince t List.mem_cons_self) hanew hle).mpr
                hdue.silence, hdue.beforeStop, hdue.notExempt⟩
          · rintro ⟨hmoment', hdue⟩
            rcases Nat.lt_or_ge a t with hlt | hle
            · refine .inl ⟨hlt, (hsilence _ hlt ?_).mp hdue.silence, hdue.notExempt⟩
              exact List.forall_mem_cons.mpr ⟨Nat.le_refl t, hanew⟩
            · have hsilence := (fullSilence_cons_iff (hsince t List.mem_cons_self) hanew hle).mp
                hdue.silence
              exact .inr ⟨hmoment', hsilence, hdue.beforeStop, hdue.notExempt⟩

/-- The alarms come one after the other. -/
lemma pairwise_alarmsBefore (hrunning : w.running = true) (htimeout : 0 < w.timeout)
    (hinputs : (w.since :: (inputs.map Prod.fst ++ [moment])).Pairwise (· ≤ ·)) :
    (w.alarmsBefore localTime moment inputs).Pairwise (· < ·) := by
  have hbefore (w : Watchdog) (hrunning : w.running = true) (htimeout : 0 < w.timeout) (n : Nat) :
      (w.runBefore localTime n).1.Pairwise (· < ·) :=
    pairwise_runWithin hrunning htimeout (by omega)
  induction inputs generalizing w with
  | nil =>
      rw [alarmsBefore]
      exact hbefore w hrunning htimeout moment
  | cons input rest ih =>
      obtain ⟨t, x⟩ := input
      have hnext : (t :: (rest.map Prod.fst ++ [moment])).Pairwise (· ≤ ·) :=
        (List.pairwise_cons.mp hinputs).2
      rw [alarmsBefore]
      cases x with
      | stop =>
          dsimp only
          rw [receive, alarmsBefore_of_stopped rfl, List.append_nil]
          exact hbefore w hrunning htimeout t
      | signal =>
          dsimp only
          rw [receive_signal hrunning]
          refine List.pairwise_append.mpr
            ⟨hbefore w hrunning htimeout t, ih (w := w.restart t) hrunning htimeout hnext, ?_⟩
          intro a ha b hb
          have hat : a < t := ((mem_runBefore_iff hrunning htimeout).mp ha).1
          obtain ⟨-, hdue⟩ :=
            (mem_alarmsBefore_iff (w := w.restart t) hrunning htimeout hnext).mp hb
          have htb : t + w.timeout ≤ b := by
            refine hdue.silence.start_add_le fun u hu => ?_
            refine le_of_mem_momentsOf (fun v hv => ?_) hu
            exact (List.pairwise_cons.mp hnext).1 v (List.mem_append_left _ hv)
          omega

/-- **A watchdog that is run from one input to the next raises the alarm exactly when it is
due.** -/
theorem spaced_alarmsBefore (htimeout : 0 < timeout)
    (hinputs : (start :: (inputs.map Prod.fst ++ [moment])).Pairwise (· ≤ ·)) :
    let alarms := (Watchdog.start timeout windows start).alarmsBefore localTime moment inputs
    alarms.Pairwise (fun a b => a + timeout ≤ b) ∧ ∀ a, a ∈ alarms ↔ a < moment
      ∧ IsDue localTime timeout windows start (momentsOf .signal inputs) (momentsOf .stop inputs)
        a := by
  have hmem (a : Nat) : a ∈ (Watchdog.start timeout windows start).alarmsBefore localTime moment
      inputs ↔ a < moment ∧ IsDue localTime timeout windows start (momentsOf .signal inputs)
        (momentsOf .stop inputs) a := mem_alarmsBefore_iff rfl htimeout hinputs
  refine ⟨?_, hmem⟩
  refine (pairwise_alarmsBefore (w := Watchdog.start timeout windows start) rfl htimeout
    hinputs).imp_of_mem fun ha hb hlt => ?_
  refine ((hmem _).mp ha).2.silence.add_le ((hmem _).mp hb).2.silence (fun u hu => ?_) hlt
  refine le_of_mem_momentsOf (fun v hv => ?_) hu
  exact (List.pairwise_cons.mp hinputs).1 v (List.mem_append_left _ hv)

end Watchdog

end ReviewStream
