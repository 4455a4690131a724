import Mathlib.Algebra.Group.Nat.Defs
import ReviewStream.Dispatch.Deadlines
import ReviewStream.Proofs.Dispatch.Closing

/-!
# A shutdown that waits returns

As long as the clock can express a grace period from now on, no call crashes over its deadline.  A
call that does not crash is never stuck: it can go on at once, or it waits for a moment that the
clock comes to, and it needs few turns, whatever workers and other calls do.

* `deadline?_eq_none_iff`: which deadlines cannot be expressed.
* `Dispatcher.Clocked.stepsLeft`: how many turns a call may still need.
* **`Dispatcher.Clocked.Sound.stepsLeft_le`**: every turn of a call brings it nearer to its end, and
  nobody puts it off.
* `Dispatcher.Clocked.Stands`: what a call can do next.
* **`Dispatcher.Clocked.stands_of_run`**: every call after any run.
-/

namespace ReviewStream

open Pool (acceptedJobs startedJobs droppedJobs endedJobs)

/-! ## Reckoning -/

namespace Dispatcher

variable {now moment : Nat} {grace : UInt64}

lemma deadline?_eq_none_iff : deadline? now grace = none ↔ 2 ^ 63 ≤ now + grace.toNat := by
  have hmax : Int64.maxValue.toInt = 2 ^ 63 - 1 := by decide
  rw [deadline?, hmax]
  simp only [ite_eq_right_iff, reduceCtorEq, imp_false]
  omega

lemma deadline?_of_lt (h : now + grace.toNat < 2 ^ 63) :
    deadline? now grace = some (now + grace.toNat) := by
  have hmax : Int64.maxValue.toInt = 2 ^ 63 - 1 := by decide
  rw [deadline?, hmax, if_pos (by omega)]

end Dispatcher

/-! ## One call -/

/-- How many turns it takes until a deadline is reckoned. -/
def Deadline.turnsLeft : Deadline → Nat
  | .due => 1
  | .unset | .set _ | .crashed => 0

lemma Deadline.turnsLeft_of_letsGo {deadline : Deadline} (h : deadline.letsGo = true) :
    deadline.turnsLeft = 0 := by
  cases deadline <;> first | rfl | cases h

lemma Deadline.letsGo_of_hasCome {now : Nat} {deadline : Deadline}
    (h : deadline.hasCome now = true) : deadline.letsGo = true := by
  cases deadline <;> first | rfl | cases h

lemma Deadline.turnsLeft_ofMoment? (moment : Option Nat) : (ofMoment? moment).turnsLeft = 0 := by
  cases moment <;> rfl

/-- How many turns a call may still need once its deadline is reckoned.  A wait that begins when the
pool is terminated is over at once. -/
def ShutdownCall.turnsLeft (terminated : Bool) : Option ShutdownCall → Nat
  | none | some (.closing _) => 10
  | some (.draining .looking) => if terminated then 1 else 8
  | some (.draining .waiting) => 7
  | some (.draining .late) => 6
  | some .discarding => 5
  | some (.lingering .looking) => if terminated then 1 else 3
  | some (.lingering .waiting) => 2
  | some (.lingering .late) => 1
  | some (.draining (.returned _)) | some (.lingering (.returned _)) | some (.left _) => 0

/-- Who looks goes on to wait, or the wait is over. -/
lemma Wait.of_look? {terminated : Bool} {wait w : Wait} (h : wait.look? terminated = some w) :
    w = .waiting ∨ ∃ answer, w = .returned answer := by
  cases wait <;> cases h
  · cases terminated
    · exact .inl rfl
    · exact .inr ⟨true, rfl⟩
  · exact .inr ⟨terminated, rfl⟩

/-- How a wait and its deadline belong together. -/
def Wait.Paced (now grace : Nat) (wait : Wait) : Deadline → Prop
  | .unset => False
  | .due => wait = .looking
  | .set moment =>
    moment ≤ now + grace ∧ moment < 2 ^ 63 ∧ ∀ terminated, wait ≠ .returned terminated
  | .crashed => wait = .looking ∧ 2 ^ 63 ≤ now + grace

/-- How a call and its deadline belong together. -/
def ShutdownCall.Paced (now grace : Nat) : Option ShutdownCall → Deadline → Prop
  | none, deadline | some (.closing _), deadline => deadline = .unset
  | some (.draining wait), deadline | some (.lingering wait), deadline =>
    wait.Paced now grace deadline
  | some .discarding, deadline | some (.left _), deadline => deadline.letsGo = true

namespace ShutdownCall

variable {d d' : Dispatcher} {c next : ShutdownCall} {happened : List (Pool.Occurrence WorkItem)}
  {now after grace : Nat} {deadline : Deadline}

/-- The end of the pool does not put a call off. -/
lemma turnsLeft_mono {before after : Bool} (h : before = true → after = true)
    (c : Option ShutdownCall) : turnsLeft after c ≤ turnsLeft before c := by
  cases before <;> cases after <;> simp_all
  rcases c with _ | (_ | _ | _ | _ | _) <;> try exact Nat.le_refl _
  all_goals
    rename_i wait
    cases wait <;> simp [turnsLeft]

/-- A call is woken when the pool is terminated, and has to look only once more. -/
lemma turnsLeft_wake (before : Bool) (c : ShutdownCall) :
    turnsLeft true (some c.wake) ≤ turnsLeft before (some c) := by
  cases c with
  | draining wait | lingering wait =>
      cases wait <;> cases before <;> simp [turnsLeft, wake, Wait.wake]
  | _ => exact Nat.le_refl _

/-- A turn brings a call nearer to its end, though it may have to reckon then. -/
lemma turnsLeft_lt_of_next? (hgo : deadline.letsGo = true)
    (h : c.next? d = some (d', happened, next)) :
    turnsLeft d'.pool.isTerminated (some next)
        + (if c.isAboutToWait then Deadline.due else deadline).turnsLeft
      < turnsLeft d.pool.isTerminated (some c) := by
  have hdue : Deadline.due.turnsLeft = 1 := rfl
  have hnone := Deadline.turnsLeft_of_letsGo hgo
  cases turn_of_next? h with
  | @close waits =>
      cases waits <;> cases d.close.pool.isTerminated <;>
        simp [turnsLeft, isAboutToWait, hdue, hnone]
  | @drain wait w hlook =>
      cases hterminated : d.pool.isTerminated <;> rw [hterminated] at hlook <;>
        cases wait <;> cases hlook <;> simp [turnsLeft, afterDraining, isAboutToWait, hnone]
  | discard =>
      cases d.discard.2.pool.isTerminated <;> simp [turnsLeft, isAboutToWait, hdue]
  | @linger wait w hlook =>
      cases hterminated : d.pool.isTerminated <;> rw [hterminated] at hlook <;>
        cases wait <;> cases hlook <;> simp [turnsLeft, afterLingering, isAboutToWait, hnone]

lemma turnsLeft_lt_of_expire? (terminated : Bool) (h : c.expire? = some next) :
    turnsLeft terminated (some next) < turnsLeft terminated (some c) := by
  cases c with
  | draining wait | lingering wait =>
      cases wait <;> cases h
      simp [turnsLeft]
  | _ => cases h

lemma Paced.mono {c : Option ShutdownCall} (h : Paced now grace c deadline) (hle : now ≤ after) :
    Paced after grace c deadline := by
  have hwait : ∀ {wait : Wait}, wait.Paced now grace deadline →
      wait.Paced after grace deadline := by
    intro wait hpaced
    cases deadline with
    | set moment => exact ⟨Nat.le_trans hpaced.1 (Nat.add_le_add_right hle _), hpaced.2⟩
    | crashed => exact ⟨hpaced.1, Nat.le_trans hpaced.2 (Nat.add_le_add_right hle _)⟩
    | _ => exact hpaced
  rcases c with _ | (_ | _ | _ | _ | _)
  · exact h
  · exact h
  · exact hwait h
  · exact h
  · exact hwait h
  · exact h

lemma Paced.wake (h : Paced now grace (some c) deadline) :
    Paced now grace (some c.wake) deadline := by
  cases c with
  | draining wait | lingering wait =>
      cases wait with
      | waiting =>
          cases deadline with
          | set moment => exact ⟨h.1, h.2.1, nofun⟩
          | unset => cases h
          | due => cases h
          | crashed => cases h.1
      | _ => exact h
  | _ => exact h

/-- A call that begins to wait has to reckon, and one that waits keeps its deadline. -/
lemma Paced.turn (h : Paced now grace (some c) deadline) (hgo : deadline.letsGo = true)
    (hnext : c.next? d = some (d', happened, next)) :
    Paced now grace (some next) (if c.isAboutToWait then .due else deadline) := by
  have hwaits : ∀ {wait : Wait}, wait.Paced now grace deadline →
      Wait.waiting.Paced now grace deadline := by
    intro wait hpaced
    cases deadline with
    | set moment => exact ⟨hpaced.1, hpaced.2.1, nofun⟩
    | unset => cases hpaced
    | due | crashed => cases hgo
  cases turn_of_next? hnext with
  | @close waits =>
      cases waits with
      | true => exact rfl
      | false => exact hgo
  | discard => exact rfl
  | drain hlook =>
      rcases Wait.of_look? hlook with rfl | ⟨terminated, rfl⟩
      · exact hwaits h
      · cases terminated <;> exact hgo
  | linger hlook =>
      rcases Wait.of_look? hlook with rfl | ⟨terminated, rfl⟩
      · exact hwaits h
      · exact hgo

lemma Paced.expire? (h : Paced now grace (some c) deadline) (hcome : deadline.hasCome now = true)
    (hnext : c.expire? = some next) : Paced now grace (some next) deadline := by
  cases deadline with
  | set moment =>
      cases c with
      | draining wait | lingering wait =>
          cases wait <;> cases hnext
          exact ⟨h.1, h.2.1, nofun⟩
      | _ => cases hnext
  | _ => cases hcome

/-- A call that has to reckon has not begun to wait, and it goes on or crashes. -/
lemma Paced.reckon {c : Option ShutdownCall} {grace : UInt64} (h : Paced now grace.toNat c .due) :
    Paced now grace.toNat c (.ofMoment? (Dispatcher.deadline? now grace)) := by
  have hwait : ∀ {wait : Wait}, wait.Paced now grace.toNat .due →
      wait.Paced now grace.toNat (.ofMoment? (Dispatcher.deadline? now grace)) := by
    intro wait hlooking
    obtain rfl : wait = .looking := hlooking
    rcases Nat.lt_or_ge (now + grace.toNat) (2 ^ 63) with hlt | hge
    · rw [Dispatcher.deadline?_of_lt hlt]
      exact ⟨Nat.le_refl _, hlt, nofun⟩
    · rw [Dispatcher.deadline?_eq_none_iff.mpr hge]
      exact ⟨rfl, hge⟩
  rcases c with _ | (_ | _ | _ | _ | _)
  · cases h
  · cases h
  · exact hwait h
  · cases h
  · exact hwait h
  · cases h

lemma Paced.le_of_crashed {c : Option ShutdownCall} (h : Paced now grace c .crashed) :
    2 ^ 63 ≤ now + grace := by
  rcases c with _ | (_ | _ | _ | _ | _)
  · cases h
  · cases h
  · exact h.2
  · cases h
  · exact h.2
  · cases h

end ShutdownCall

namespace Dispatcher

/-! ## One call among others -/

namespace Attended

variable {population : Registry.Population} {s t : Attended} {act : Act} {call : Nat}
  {happened : List (Pool.Occurrence WorkItem)} {made : List Call}

/-- What a step does to one of the calls that shut a dispatcher down. -/
inductive CallStep (s : Attended) (act : Act) (t : Attended) (call : Nat) : Prop
  | same (hgo : act ≠ .goOn call) (hexpire : act ≠ .expire call)
      (h : t.calls[call]? = s.calls[call]?)
  | woken {m : Pool.Move WorkItem} (hact : act = .work m)
      (hlast : s.dispatcher.pool.lastLeaves t.dispatcher.pool = true)
      (h : t.calls[call]? = (s.calls[call]?).map (·.wake))
  | begins {waits : Bool} (hact : act = .shutdown waits) (hnone : s.calls[call]? = none)
      (h : t.calls[call]? = some (.closing waits))
  | turns {c next : ShutdownCall} {happened : List (Pool.Occurrence WorkItem)}
      (hact : act = .goOn call) (hc : s.calls[call]? = some c)
      (hnext : c.next? s.dispatcher = some (t.dispatcher, happened, next))
      (h : t.calls[call]? = some next)
  | expires {c next : ShutdownCall} (hact : act = .expire call) (hc : s.calls[call]? = some c)
      (hnext : c.expire? = some next) (h : t.calls[call]? = some next)

lemma callStep_of_step (h : s.step population act = some (t, happened, made)) (call : Nat) :
    s.CallStep act t call := by
  cases act with
  | work m =>
      rw [step] at h
      split_ifs at h
      obtain ⟨⟨d, now⟩, -, heq⟩ := Option.map_eq_some_iff.mp h
      cases heq
      cases hlast : s.dispatcher.pool.lastLeaves d.pool with
      | true => exact .woken rfl hlast List.getElem?_map
      | false => exact .same (by rintro ⟨⟩) (by rintro ⟨⟩) rfl
  | call worker =>
      obtain ⟨⟨d, now⟩, -, heq⟩ := Option.map_eq_some_iff.mp h
      cases heq
      exact .same (by rintro ⟨⟩) (by rintro ⟨⟩) rfl
  | change registry whitelist =>
      cases h
      exact .same (by rintro ⟨⟩) (by rintro ⟨⟩) rfl
  | shutdown waits =>
      cases h
      rcases Nat.lt_trichotomy call s.calls.length with hlt | rfl | hgt
      · exact .same (by rintro ⟨⟩) (by rintro ⟨⟩) (List.getElem?_append_left hlt)
      · refine .begins rfl (List.getElem?_eq_none (Nat.le_refl _)) ?_
        simp
      · refine .same (by rintro ⟨⟩) (by rintro ⟨⟩) ?_
        have hlength : (s.calls ++ [ShutdownCall.closing waits]).length ≤ call := by
          rw [List.length_append]
          exact hgt
        rw [List.getElem?_eq_none (Nat.le_of_lt hgt), List.getElem?_eq_none hlength]
  | goOn i =>
      obtain ⟨c, hc, hrest⟩ := Option.bind_eq_some_iff.mp h
      obtain ⟨⟨d, now, next⟩, hnext, heq⟩ := Option.bind_eq_some_iff.mp hrest
      cases heq
      have hlt := (List.getElem?_eq_some_iff.mp hc).1
      by_cases hi : i = call
      · subst hi
        exact .turns rfl hc hnext (List.getElem?_set_self hlt)
      · exact .same (fun heq => hi (Act.goOn.inj heq)) (by rintro ⟨⟩) (List.getElem?_set_ne hi)
  | expire i =>
      obtain ⟨c, hc, hrest⟩ := Option.bind_eq_some_iff.mp h
      obtain ⟨next, hnext, heq⟩ := Option.bind_eq_some_iff.mp hrest
      cases heq
      have hlt := (List.getElem?_eq_some_iff.mp hc).1
      by_cases hi : i = call
      · subst hi
        exact .expires rfl hc hnext (List.getElem?_set_self hlt)
      · exact .same (by rintro ⟨⟩) (fun heq => hi (Act.expire.inj heq)) (List.getElem?_set_ne hi)

/-- Nobody changes the grace period. -/
lemma graceSecs_of_step (h : s.step population act = some (t, happened, made)) :
    t.dispatcher.graceSecs = s.dispatcher.graceSecs := by
  have htakeUp : ∀ (happened : List (Pool.Occurrence WorkItem)) (d : Dispatcher),
      (happened.foldl takeUp d).graceSecs = d.graceSecs := by
    intro happened
    induction happened with
    | nil => exact fun d => rfl
    | cons o happened ih =>
        intro d
        rw [List.foldl_cons, ih]
        cases o <;> rfl
  cases step_spec h with
  | work _ hmove _ =>
      rw [Dispatcher.move] at hmove
      split_ifs at hmove
      obtain ⟨r, -, heq⟩ := Option.map_eq_some_iff.mp hmove
      cases heq
      exact htakeUp _ _
  | goOn _ hturn => cases hturn <;> rfl
  | _ => rfl

end Attended

namespace Clocked

variable {population : Registry.Population} {s t u : Clocked} {act : Act} {acts : List Act}
  {call : Nat} {c : ShutdownCall} {happened more : List (Pool.Occurrence WorkItem)}
  {made later : List Call}

/-- Whether a step is one of a certain call. -/
def Act.isOf (call : Nat) : Act → Bool
  | .attend (.goOn i) | .attend (.expire i) | .reckon i => i == call
  | .attend (.work _) | .attend (.call _) | .attend (.change ..) | .attend (.shutdown _)
  | .elapse _ => false

lemma isOf_goOn (call : Nat) : (Act.attend (.goOn call)).isOf call = true := beq_self_eq_true call

lemma isOf_expire (call : Nat) : (Act.attend (.expire call)).isOf call = true :=
  beq_self_eq_true call

lemma isOf_reckon (call : Nat) : (Act.reckon call).isOf call = true := beq_self_eq_true call

/-- What a step is. -/
inductive Step (population : Registry.Population) (s : Clocked) :
    Act → Clocked → List (Pool.Occurrence WorkItem) → List Call → Prop
  | attend {act : Attended.Act} {attended : Attended} {happened : List (Pool.Occurrence WorkItem)}
      {made : List Call} (hallows : s.allows act = true)
      (h : s.attended.step population act = some (attended, happened, made)) :
      Step population s (.attend act) { s.noteDue act with attended } happened made
  | reckon {call : Nat} (hdue : s.deadlines call = .due) :
      Step population s (.reckon call)
        (s.setDeadline call (.ofMoment? (deadline? s.now s.attended.dispatcher.graceSecs))) [] []
  | elapse {secs : Nat} : Step population s (.elapse secs) { s with now := s.now + secs } [] []

lemma step_spec (h : s.step population act = some (t, happened, made)) :
    Step population s act t happened made := by
  cases act with
  | attend act =>
      rw [step] at h
      split_ifs at h with hallows
      obtain ⟨⟨attended, now, first⟩, hstep, heq⟩ := Option.map_eq_some_iff.mp h
      cases heq
      exact .attend hallows hstep
  | reckon call =>
      rw [step] at h
      split_ifs at h with hdue
      cases h
      exact .reckon hdue
  | elapse secs =>
      cases h
      exact .elapse

/-! ## Deadlines -/

lemma deadlines_setDeadline (s : Clocked) (i : Nat) (deadline : Deadline) (call : Nat) :
    (s.setDeadline i deadline).deadlines call = if call = i then deadline else s.deadlines call :=
  rfl

lemma now_noteDue (s : Clocked) (act : Attended.Act) : (s.noteDue act).now = s.now := by
  cases act <;> try rfl
  rw [noteDue]
  split_ifs <;> rfl

lemma deadlines_noteDue_of_ne {act : Attended.Act} (h : act ≠ .goOn call) :
    (s.noteDue act).deadlines call = s.deadlines call := by
  cases act <;> try rfl
  rename_i i
  rw [noteDue]
  split_ifs
  · exact if_neg fun heq => h (congrArg Attended.Act.goOn heq.symm)
  · rfl

lemma deadlines_noteDue_goOn (hc : s.attended.calls[call]? = some c) :
    (s.noteDue (.goOn call)).deadlines call
      = if c.isAboutToWait then .due else s.deadlines call := by
  simp only [noteDue, hc, Option.any_some]
  split_ifs
  · exact if_pos rfl
  · rfl

/-! ## What is known -/

/-- What is known of a dispatcher, of those who shut it down and of their deadlines. -/
structure Sound (s : Clocked) : Prop where
  attended : ∃ acts past, s.attended.Sound acts past
  paced : ∀ call, ShutdownCall.Paced s.now s.attended.dispatcher.graceSecs.toNat
    s.attended.calls[call]? (s.deadlines call)

lemma graceSecs_of_step (h : s.step population act = some (t, happened, made)) :
    t.attended.dispatcher.graceSecs = s.attended.dispatcher.graceSecs := by
  cases step_spec h with
  | attend _ hstep => exact Attended.graceSecs_of_step hstep
  | reckon _ | elapse => rfl

lemma Sound.step (hs : s.Sound) (h : s.step population act = some (t, happened, made)) :
    t.Sound := by
  have hgrace := graceSecs_of_step h
  obtain ⟨⟨acts, past, hattended⟩, hpaced⟩ := hs
  cases step_spec h with
  | @attend act attended _ _ hallows hstep =>
      refine ⟨⟨_, _, hattended.step hstep⟩, fun call => ?_⟩
      have hcall := hpaced call
      dsimp only at hgrace ⊢
      rw [hgrace, now_noteDue]
      cases Attended.callStep_of_step hstep call with
      | same hgo _ hsame =>
          rw [hsame, deadlines_noteDue_of_ne hgo]
          exact hcall
      | woken hact _ hwoken =>
          subst hact
          rw [hwoken]
          cases hc : s.attended.calls[call]? with
          | none => rwa [hc] at hcall
          | some c =>
              rw [hc] at hcall
              exact hcall.wake
      | begins hact hnone hbegun =>
          subst hact
          rw [hnone] at hcall
          rw [hbegun]
          exact hcall
      | turns hact hc hnext hturned =>
          subst hact
          rw [hc] at hcall
          rw [hturned, deadlines_noteDue_goOn hc]
          exact hcall.turn hallows hnext
      | expires hact hc hnext hexpired =>
          subst hact
          rw [hc] at hcall
          rw [hexpired]
          exact hcall.expire? hallows hnext
  | @reckon i hdue =>
      refine ⟨⟨acts, past, hattended⟩, fun call => ?_⟩
      have hcall := hpaced call
      rw [deadlines_setDeadline]
      split_ifs with heq
      · rw [heq, hdue] at hcall
        rw [heq]
        exact hcall.reckon
      · exact hcall
  | elapse => exact ⟨⟨acts, past, hattended⟩, fun call => (hpaced call).mono (Nat.le_add_right _ _)⟩

/-! ## Turns -/

/-- How many turns a call may still need. -/
def stepsLeft (s : Clocked) (call : Nat) : Nat :=
  ShutdownCall.turnsLeft s.attended.dispatcher.pool.isTerminated s.attended.calls[call]?
    + (s.deadlines call).turnsLeft

/-- A call that is woken finds the pool terminated, and others are not woken. -/
lemma turnsLeft_woken {s t : Attended} {acts : List Attended.Act} (hs : s.Sound acts happened)
    (hnearer : s.dispatcher.pool.Nearer t.dispatcher.pool)
    (hlast : s.dispatcher.pool.lastLeaves t.dispatcher.pool = true)
    (hc : s.calls[call]? = some c) :
    ShutdownCall.turnsLeft t.dispatcher.pool.isTerminated (some c.wake)
      ≤ ShutdownCall.turnsLeft s.dispatcher.pool.isTerminated (some c) := by
  cases hterminated : t.dispatcher.pool.isTerminated with
  | true => exact ShutdownCall.turnsLeft_wake _ c
  | false =>
      have hempty : t.dispatcher.pool.workers.isEmpty = true := by
        simp only [Pool.lastLeaves, Bool.and_eq_true] at hlast
        exact hlast.2
      have hopen : t.dispatcher.pool.stage = .running := by
        by_contra hclosed
        have hshut := (Pool.isShutdown_eq_true_iff _).mpr hclosed
        simp [Pool.isTerminated, hshut, hempty] at hterminated
      have hbefore : s.dispatcher.pool.stage = .running := by
        by_contra hclosed
        exact hnearer.closed hclosed hopen
      have hwake : c.wake = c := by
        have hfits := hs.fits call c hc
        cases c with
        | draining wait => exact absurd hbefore hfits.2.1
        | lingering wait =>
            rw [show s.dispatcher.pool.stage = .stopped from hfits] at hbefore
            cases hbefore
        | _ => rfl
      rw [hwake, ← hterminated]
      exact ShutdownCall.turnsLeft_mono hnearer.terminated (some c)

/-- **Every turn of a call brings it nearer to its end**, and nobody puts it off. -/
theorem Sound.stepsLeft_le (hs : s.Sound) (h : s.step population act = some (t, happened, made))
    (call : Nat) :
    t.stepsLeft call + (if act.isOf call then 1 else 0) ≤ s.stepsLeft call := by
  obtain ⟨⟨acts, past, hattended⟩, -⟩ := hs
  cases step_spec h with
  | @attend act attended _ _ hallows hstep =>
      have hnearer := hattended.nearer (Attended.step_spec hstep)
      simp only [stepsLeft]
      cases Attended.callStep_of_step hstep call with
      | same hgo hexpire hsame =>
          have hother : (Act.attend act).isOf call = false := by
            cases act <;> simp_all [Act.isOf]
          rw [hother, hsame, deadlines_noteDue_of_ne hgo]
          exact Nat.add_le_add_right (ShutdownCall.turnsLeft_mono hnearer.terminated _) _
      | @woken m hact hlast hwoken =>
          subst hact
          have hdeadline : (s.noteDue (.work m)).deadlines call = s.deadlines call := rfl
          rw [hwoken, hdeadline]
          cases hc : s.attended.calls[call]? with
          | none => exact Nat.le_refl _
          | some c => exact Nat.add_le_add_right (turnsLeft_woken hattended hnearer hlast hc) _
      | begins hact hnone hbegun =>
          subst hact
          rw [hbegun, hnone]
          exact Nat.le_refl _
      | turns hact hc hnext hturned =>
          subst hact
          have hless := ShutdownCall.turnsLeft_lt_of_next? hallows hnext
          rw [hturned, deadlines_noteDue_goOn hc, hc, Deadline.turnsLeft_of_letsGo hallows]
          simpa [isOf_goOn, Nat.add_one_le_iff] using hless
      | expires hact hc hnext hexpired =>
          subst hact
          have hmono := ShutdownCall.turnsLeft_mono hnearer.terminated (attended.calls[call]?)
          have hless := ShutdownCall.turnsLeft_lt_of_expire?
            s.attended.dispatcher.pool.isTerminated hnext
          have hnone := Deadline.turnsLeft_of_letsGo (Deadline.letsGo_of_hasCome hallows)
          rw [hexpired] at hmono
          rw [hexpired, deadlines_noteDue_of_ne (by rintro ⟨⟩), hc, hnone]
          simpa [isOf_expire, Nat.add_one_le_iff] using Nat.lt_of_le_of_lt hmono hless
  | @reckon i hdue =>
      have hdone := Deadline.turnsLeft_ofMoment?
        (deadline? s.now s.attended.dispatcher.graceSecs)
      simp only [stepsLeft, deadlines_setDeadline]
      by_cases heq : call = i
      · subst heq
        rw [if_pos rfl, hdone, hdue]
        simp [Act.isOf, setDeadline, Deadline.turnsLeft]
      · have hother : (Act.reckon i).isOf call = false := by simp [Act.isOf, Ne.symm heq]
        rw [if_neg heq, hother]
        exact Nat.le_refl _
  | elapse => exact Nat.le_refl _

/-! ## Nobody is stuck -/

/-- What a call can do next. -/
inductive Stands (population : Registry.Population) (s : Clocked) (call : Nat) : Prop
  /-- It has returned. -/
  | left {waited : Bool} (h : s.attended.calls[call]? = some (.left waited))
  /-- It can go on at once. -/
  | ready {act : Act} (hof : act.isOf call = true) (h : (s.step population act).isSome = true)
  /-- It waits, and goes on at its deadline at the latest. -/
  | waiting {moment : Nat} (hdeadline : s.deadlines call = .set moment) (hlater : s.now < moment)
      (hgrace : moment ≤ s.now + s.attended.dispatcher.graceSecs.toNat)
      (h : ∀ now, moment ≤ now →
        (({ s with now } : Clocked).step population (.attend (.expire call))).isSome = true)
  /-- It has crashed over a deadline that cannot be expressed. -/
  | crashed (hdeadline : s.deadlines call = .crashed)
      (hlate : 2 ^ 63 ≤ s.now + s.attended.dispatcher.graceSecs.toNat)

lemma isSome_step_goOn (hc : s.attended.calls[call]? = some c)
    (hgo : (s.deadlines call).letsGo = true)
    (hnext : (c.next? s.attended.dispatcher).isSome = true) :
    (s.step population (.attend (.goOn call))).isSome = true := by
  obtain ⟨⟨d, happened, next⟩, hnext⟩ := Option.isSome_iff_exists.mp hnext
  simp [step, allows, hgo, Attended.step, hc, hnext]

lemma isSome_step_expire (hc : s.attended.calls[call]? = some c)
    (hcome : (s.deadlines call).hasCome s.now = true) (hnext : c.expire?.isSome = true) :
    (s.step population (.attend (.expire call))).isSome = true := by
  obtain ⟨next, hnext⟩ := Option.isSome_iff_exists.mp hnext
  simp [step, allows, hcome, Attended.step, hc, hnext]

/-- A call that is in a wait can look, waits for its deadline, or has crashed over it. -/
lemma stands_of_wait {wait : Wait} (hc : s.attended.calls[call]? = some c)
    (hpaced : wait.Paced s.now s.attended.dispatcher.graceSecs.toNat (s.deadlines call))
    (hlook : wait ≠ .waiting → (∀ answer, wait ≠ .returned answer) →
      (c.next? s.attended.dispatcher).isSome = true)
    (hexpire : wait = .waiting → c.expire?.isSome = true) : s.Stands population call := by
  cases hdeadline : s.deadlines call with
  | unset =>
      rw [hdeadline] at hpaced
      cases hpaced
  | due =>
      refine .ready (isOf_reckon call) ?_
      rw [step, if_pos hdeadline]
      rfl
  | crashed =>
      rw [hdeadline] at hpaced
      exact .crashed hdeadline hpaced.2
  | set moment =>
      rw [hdeadline] at hpaced
      by_cases hwaiting : wait = .waiting
      · rcases Nat.lt_or_ge s.now moment with hlt | hge
        · refine .waiting hdeadline hlt hpaced.1 fun now hnow => ?_
          refine isSome_step_expire (s := { s with now }) hc ?_ (hexpire hwaiting)
          simp [hdeadline, Deadline.hasCome, hnow]
        · refine .ready (isOf_expire call) ?_
          refine isSome_step_expire hc ?_ (hexpire hwaiting)
          simp [hdeadline, Deadline.hasCome, hge]
      · refine .ready (isOf_goOn call) ?_
        refine isSome_step_goOn hc ?_ (hlook hwaiting hpaced.2.2)
        rw [hdeadline]
        rfl

/-- **No call is stuck** unless it has crashed. -/
theorem Sound.stands (hs : s.Sound) (hc : s.attended.calls[call]? = some c) :
    s.Stands population call := by
  have hpaced := hs.paced call
  rw [hc] at hpaced
  -- A call that does not wait goes on at once.
  have hready : (s.deadlines call).letsGo = true →
      (c.next? s.attended.dispatcher).isSome = true → s.Stands population call :=
    fun hgo hnext => .ready (isOf_goOn call) (isSome_step_goOn hc hgo hnext)
  cases c with
  | closing waits =>
      have hunset : s.deadlines call = .unset := hpaced
      refine hready (by rw [hunset]; rfl) ?_
      cases waits <;> rfl
  | discarding => exact hready hpaced rfl
  | left waited => exact .left hc
  | draining wait | lingering wait =>
      refine stands_of_wait hc hpaced (fun hwaiting hreturned => ?_) ?_
      · cases wait with
        | waiting => exact absurd rfl hwaiting
        | returned answer => exact absurd rfl (hreturned answer)
        | looking | late => rfl
      · rintro rfl
        rfl

/-! ## Runs -/

/-- A run is a sequence of steps. -/
lemma isRun : IsRun (Clocked.step population) (run population) ([], [])
    fun r r' => (r.1 ++ r'.1, r.2 ++ r'.2) :=
  .ofPairs (fun _ => rfl) fun _ _ _ => rfl

/-- What is known stays known, and the turns that a call has had are behind it. -/
lemma Sound.run (hs : s.Sound) (h : s.run population acts = some (t, happened, made)) :
    t.Sound ∧ t.attended.dispatcher.graceSecs = s.attended.dispatcher.graceSecs
      ∧ ∀ call, t.stepsLeft call + acts.countP (·.isOf call) ≤ s.stepsLeft call := by
  induction acts generalizing s happened made with
  | nil =>
      cases h
      exact ⟨hs, rfl, fun call => Nat.le_refl _⟩
  | cons act acts ih =>
      obtain ⟨u, ⟨now, first⟩, ⟨more, later⟩, hfirst, hrest, -⟩ := isRun.exists_of_cons h
      obtain ⟨ht, hgrace, hsteps⟩ := ih (hs.step hfirst) hrest
      refine ⟨ht, hgrace.trans (graceSecs_of_step hfirst), fun call => ?_⟩
      have hnow := hs.stepsLeft_le hfirst call
      have hlater := hsteps call
      rw [List.countP_cons]
      omega

/-- What does not depend on the clock. -/
def Act.attended? : Act → Option Attended.Act
  | .attend act => some act
  | .reckon _ | .elapse _ => none

/-- What happens by the clock can happen without it. -/
lemma run_attended (h : s.run population acts = some (t, happened, made)) :
    s.attended.run population (acts.filterMap (·.attended?))
      = some (t.attended, happened, made) := by
  induction acts generalizing s happened made with
  | nil =>
      cases h
      rfl
  | cons act acts ih =>
      obtain ⟨u, ⟨now, first⟩, ⟨more, later⟩, hfirst, hrest, hrecord⟩ := isRun.exists_of_cons h
      cases hrecord
      have hlater := ih hrest
      cases step_spec hfirst with
      | attend _ hstep => exact Attended.isRun.cons_eq_some hstep hlater
      | reckon _ | elapse => exact hlater

lemma sound_ofDispatcher {d : Dispatcher} (hd : Attended.IsNew d) (start : Nat) :
    (ofDispatcher d start).Sound :=
  ⟨⟨[], [], Attended.sound_of_isNew hd⟩, fun _ => rfl⟩

/-- **A shutdown that waits returns**, as long as the clock can express its deadlines.  Whatever
workers and other calls do meanwhile, and however late a call has its turns, after any run:

* A call that shuts the dispatcher down has returned, can go on at once, or waits for a moment no
  later than a grace period from now on, at which it goes on; or it has crashed.
* It has had at most ten turns.
* No call has crashed if the clock can express a grace period from now on. -/
theorem stands_of_run {d : Dispatcher} {start : Nat} (hd : Attended.IsNew d)
    (h : (ofDispatcher d start).run population acts = some (s, happened, made)) :
    (∀ call < s.attended.calls.length, s.Stands population call)
      ∧ (∀ call, acts.countP (·.isOf call) ≤ 10)
      ∧ (s.now + d.graceSecs.toNat < 2 ^ 63 → ∀ call, s.deadlines call ≠ .crashed) := by
  obtain ⟨hs, hgrace, hsteps⟩ := (sound_ofDispatcher hd start).run h
  refine ⟨fun call hcall => ?_, fun call => ?_, fun hlt call hcrashed => ?_⟩
  · exact hs.stands (List.getElem?_eq_getElem hcall)
  · exact Nat.le_trans (Nat.le_add_left _ _) (hsteps call)
  · have hpaced := hs.paced call
    rw [hcrashed, hgrace] at hpaced
    exact Nat.not_le_of_lt hlt hpaced.le_of_crashed

end Clocked

end Dispatcher

end ReviewStream
