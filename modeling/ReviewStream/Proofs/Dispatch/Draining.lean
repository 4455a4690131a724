import Mathlib.Data.Prod.Lex
import Mathlib.Order.WellFounded
import ReviewStream.Proofs.Dispatch.Attended

/-!
# Working off what a dispatcher has accepted

A dispatcher that is shut down comes to its end if its workers do not rest for good: as long as
there are workers one of them has a turn, and every turn brings the end nearer, whatever others do.

* `Dispatcher.Attended.effort`: what is left to do.  A worker that takes an item up may owe any
  number of calls after that, so calls count less than items.
* **`Dispatcher.Attended.Sound.exists_turn`**: nobody is stuck before the end.
* `Dispatcher.Attended.Endless`: a run without end in which workers do not rest for good.
* **`Dispatcher.Attended.Sound.exists_endless`**: there always is such a run.
* **`Dispatcher.Attended.Endless.exists_isTerminated`**: the end comes.
-/

namespace ReviewStream.Dispatcher.Attended

open Pool (acceptedJobs startedJobs)

variable {population : Registry.Population} {s t u : Attended} {act : Act} {acts : List Act}
  {past happened more : List (Pool.Occurrence WorkItem)} {made after : List Call}

/-- Whether a step is a turn of a worker. -/
def Act.isTurn : Act → Bool
  | .work m => m.isTurn
  | .call _ => true
  | .change .. | .shutdown _ | .goOn _ | .expire _ => false

/-! ## What is left to do -/

/-- What is left to do. -/
def effort (s : Attended) : Nat ×ₗ Nat :=
  toLex (s.dispatcher.pool.outline.load, s.dispatcher.owed.length)

/-- **Every turn of a worker brings the end nearer**, and nobody puts it off. -/
theorem Sound.effort_le (hs : s.Sound acts past) (hclosed : s.dispatcher.pool.stage ≠ .running)
    (h : Step population s act t happened made) :
    t.effort ≤ s.effort ∧ (act.isTurn = true → t.effort < s.effort) := by
  have hparked : s.dispatcher.pool.parked = 0 := hs.unparked hclosed
  simp only [effort, Prod.Lex.toLex_le_toLex', Prod.Lex.toLex_lt_toLex']
  cases h with
  | @work m _ _ _ hopen hmove _ =>
      obtain ⟨hpool, -, -, howed⟩ := move_spec hs.ledger hmove
      have hout := Pool.outline_move hs.ledger.numbered hpool
      obtain ⟨hload, hturn⟩ := hout.load_le hclosed hparked
      cases hm : m.isTurn with
      | true =>
          have hless := hturn hm
          exact ⟨⟨hload, fun heq => absurd heq hless.ne⟩, fun _ => ⟨hload, fun heq =>
            absurd heq hless.ne⟩⟩
      | false =>
          -- Only a turn of a worker settles calls that are owed from then on.
          rw [howed, hout.startedJobs_eq_nil hm, List.flatMap_nil, List.append_nil]
          refine ⟨⟨hload, fun _ => Nat.le_refl _⟩, fun hturn => ?_⟩
          cases hm.symm.trans hturn
  | call hcalls =>
      obtain ⟨-, howed, -⟩ := call_spec hs.ledger hcalls
      have hlength := howed.length_eq
      rw [List.length_cons] at hlength
      refine ⟨⟨Nat.le_refl _, fun _ => ?_⟩, fun _ => ⟨Nat.le_refl _, fun _ => ?_⟩⟩
      · exact Nat.le_of_succ_le hlength.ge
      · exact hlength.ge
  | change | shutdown | expire _ _ =>
      exact ⟨⟨Nat.le_refl _, fun _ => Nat.le_refl _⟩, nofun⟩
  | goOn hc hturn =>
      obtain ⟨-, hpasses, howed, -⟩ := passes_of_turn hs.ledger hturn
      refine ⟨⟨?_, fun _ => (congrArg List.length howed).le⟩, nofun⟩
      rcases hpasses with ⟨hpool, -⟩ | ⟨m, hmove⟩
      · dsimp only
        rw [hpool]
      · exact ((Pool.outline_move hs.ledger.numbered hmove).load_le hclosed hparked).1

/-- **Nobody is stuck before the end.**  As long as there are workers one of them has a turn. -/
theorem Sound.exists_turn (hs : s.Sound acts past) (hclosed : s.dispatcher.pool.stage ≠ .running)
    (hopen : s.dispatcher.pool.isTerminated = false) :
    ∃ act, act.isTurn = true ∧ (s.step population act).isSome = true := by
  have hsize : s.dispatcher.pool.size ≠ 0 := by
    intro hnone
    rw [(Pool.isTerminated_iff _).mpr ⟨hclosed, hnone⟩] at hopen
    cases hopen
  obtain ⟨id, hlook | ⟨item, -, hfinish⟩⟩ :=
    Pool.exists_busy hs.ledger.numbered (hs.unparked hclosed) hsize
  · refine ⟨.work (.served (.look id)), rfl, ?_⟩
    have hmove : s.dispatcher.pool.move (.served (.look id)) = s.dispatcher.pool.step (.look id) :=
      rfl
    rw [Attended.step, Dispatcher.move, hmove]
    simp [isOpen, allowsMove, allows, hlook]
  · cases hcalls : s.dispatcher.pendingOf id with
    | nil =>
        refine ⟨.work (.served (.finish id .returned)), rfl, ?_⟩
        have hmove : s.dispatcher.pool.move (.served (.finish id .returned))
            = s.dispatcher.pool.step (.finish id .returned) := rfl
        rw [Attended.step, Dispatcher.move, hmove]
        simp [isOpen, allowsMove, allows, hcalls, hfinish]
    | cons c rest =>
        refine ⟨.call id, rfl, ?_⟩
        rw [Attended.step, Dispatcher.step, hcalls]
        rfl

/-! ## Runs without end -/

/-- A run without end in which workers do not rest for good: whenever there is a worker, one of them
has a turn sooner or later. -/
structure Endless (population : Registry.Population) (s : Attended) (states : Nat → Attended)
    (acts : Nat → Act) : Prop where
  start : states 0 = s
  next : ∀ n, ∃ happened made,
    (states n).step population (acts n) = some (states (n + 1), happened, made)
  fair : ∀ n, (states n).dispatcher.pool.isTerminated = false →
    ∃ later, n ≤ later ∧ (acts later).isTurn = true

/-- A dispatcher that is shut down can always go on: a worker has its turn, or, when none is left, a
step is taken that changes nothing. -/
lemma Sound.exists_next (hs : s.Sound acts past) (hclosed : s.dispatcher.pool.stage ≠ .running) :
    ∃ act t happened made, s.step population act = some (t, happened, made)
      ∧ (s.dispatcher.pool.isTerminated = false → act.isTurn = true) ∧ act ≠ .shutdown true := by
  cases hterminated : s.dispatcher.pool.isTerminated with
  | true =>
      exact ⟨.change s.dispatcher.registry s.dispatcher.whitelist, s, [], [], rfl, nofun, nofun⟩
  | false =>
      obtain ⟨act, hturn, hstep⟩ := hs.exists_turn hclosed hterminated
      obtain ⟨⟨t, happened, made⟩, hstep⟩ := Option.isSome_iff_exists.mp hstep
      refine ⟨act, t, happened, made, hstep, fun _ => hturn, ?_⟩
      rintro rfl
      cases hturn

/-- **There always is a run without end in which workers do not rest for good.** -/
theorem Sound.exists_endless (hs : s.Sound acts past)
    (hclosed : s.dispatcher.pool.stage ≠ .running) :
    ∃ states steps, Endless population s states steps ∧ ∀ n, steps n ≠ .shutdown true := by
  let Open := { s : Attended //
    (∃ acts past, s.Sound acts past) ∧ s.dispatcher.pool.stage ≠ .running }
  have hnext : ∀ s : Open, ∃ act, ∃ t : Open,
      (∃ happened made, s.1.step population act = some (t.1, happened, made))
        ∧ (s.1.dispatcher.pool.isTerminated = false → act.isTurn = true)
        ∧ act ≠ .shutdown true := by
    rintro ⟨s, ⟨acts, past, hs⟩, hclosed⟩
    obtain ⟨act, t, happened, made, hstep, hrest⟩ := hs.exists_next hclosed
    have hclosed' := (hs.nearer (step_spec hstep)).closed hclosed
    exact ⟨act, ⟨t, ⟨_, _, hs.step hstep⟩, hclosed'⟩, ⟨happened, made, hstep⟩, hrest⟩
  choose turn after hstep hturn hkept using hnext
  let states : Nat → Open := fun n => Nat.rec ⟨s, ⟨acts, past, hs⟩, hclosed⟩ (fun _ => after) n
  refine ⟨fun n => (states n).1, fun n => turn (states n), ⟨rfl, fun n => ?_, fun n hopen => ?_⟩,
    fun n => hkept _⟩
  · exact hstep (states n)
  · exact ⟨n, Nat.le_refl n, hturn _ hopen⟩

variable {states : Nat → Attended} {steps : Nat → Act}

/-- The first steps of a run without end are a run. -/
lemma Endless.exists_run (h : Endless population s states steps) (n : Nat) :
    ∃ happened made,
      s.run population ((List.range n).map steps) = some (states n, happened, made) := by
  induction n with
  | zero =>
      refine ⟨[], [], ?_⟩
      rw [h.start]
      rfl
  | succ n ih =>
      obtain ⟨happened, made, hrun⟩ := ih
      obtain ⟨more, after, hstep⟩ := h.next n
      refine ⟨happened ++ more, made ++ after, ?_⟩
      rw [List.range_succ, List.map_append, List.map_singleton]
      exact isRun.append_eq_some hrun (isRun.singleton_eq_some hstep)

/-- What is known at the start is known all along, and the dispatcher stays shut down. -/
lemma Endless.sound (h : Endless population s states steps) (hs : s.Sound acts past)
    (hclosed : s.dispatcher.pool.stage ≠ .running) (n : Nat) :
    (∃ acts past, (states n).Sound acts past)
      ∧ (states n).dispatcher.pool.stage ≠ .running := by
  induction n with
  | zero =>
      rw [h.start]
      exact ⟨⟨acts, past, hs⟩, hclosed⟩
  | succ n ih =>
      obtain ⟨⟨acts, past, hn⟩, hclosed⟩ := ih
      obtain ⟨more, after, hstep⟩ := h.next n
      exact ⟨⟨_, _, hn.step hstep⟩, (hn.nearer (step_spec hstep)).closed hclosed⟩

/-- **The end comes.** -/
theorem Endless.exists_isTerminated (h : Endless population s states steps)
    (hs : s.Sound acts past) (hclosed : s.dispatcher.pool.stage ≠ .running) :
    ∃ n, (states n).dispatcher.pool.isTerminated = true := by
  by_contra hnever
  have hopen : ∀ n, (states n).dispatcher.pool.isTerminated = false := fun n =>
    Bool.eq_false_iff.mpr fun hterminated => hnever ⟨n, hterminated⟩
  have heffort : ∀ n, (states (n + 1)).effort ≤ (states n).effort
      ∧ ((steps n).isTurn = true → (states (n + 1)).effort < (states n).effort) := by
    intro n
    obtain ⟨⟨acts, past, hn⟩, hclosed⟩ := h.sound hs hclosed n
    obtain ⟨more, after, hstep⟩ := h.next n
    exact hn.effort_le hclosed (step_spec hstep)
  have hfalls : Antitone fun n => (states n).effort :=
    antitone_nat_of_succ_le fun n => (heffort n).1
  -- From the state with the least effort on there is one more turn.
  obtain ⟨least, ⟨n, rfl⟩, hleast⟩ := wellFounded_lt.has_min
    (Set.range fun n => (states n).effort) ⟨_, 0, rfl⟩
  obtain ⟨later, hlater, hturn⟩ := h.fair n (hopen n)
  refine hleast _ ⟨later + 1, rfl⟩ ?_
  calc (states (later + 1)).effort < (states later).effort := (heffort later).2 hturn
    _ ≤ (states n).effort := hfalls hlater

end ReviewStream.Dispatcher.Attended
