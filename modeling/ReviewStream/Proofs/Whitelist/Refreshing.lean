import Mathlib.Tactic.SplitIfs
import ReviewStream.Dispatch.Basic
import ReviewStream.Proofs.Runs
import ReviewStream.Whitelist.Refreshing

/-!
# Refreshes that run beside each other

All tasks that refresh a whitelist put what they read into the same one.  Which whitelist is in use
is up to the reloads that come to their end, in their order.

* `Refreshing.step_cases`: everything that can happen.
* **`Refreshing.handle_of_run`**: nothing but the reloads decides which whitelist is in use.
* `Refreshing.Tended.run`: a task that is neither noted nor that of the call under way is aborted.
* **`Dispatcher.RunsAs.run`**: what an open dispatcher does with its one refresh is among the orders
  that are possible.
-/

namespace ReviewStream

variable {files : Files} {i : Nat} {c : WhitelistConfig} {p q : RefreshTask}
  {loads early late : List Load} {h : WhitelistHandle}

lemma WhitelistHandle.reloads_append (h : WhitelistHandle) (early late : List Load) :
    h.reloads (early ++ late) = (h.reloads early).reloads late := List.foldl_append

/-! ## Steps -/

namespace RefreshTask

/-- What a task can do: it keeps its file and its abort, and holds only what it has just read. -/
structure Moves (files : Files) (p : RefreshTask) (a : Act) (q : RefreshTask) : Prop where
  location : q.location = p.location
  aborted : q.aborted = p.aborted
  phase_ne : p.phase ≠ .ended
  holding : ∀ content, q.phase = .holding content → content = files p.location
  stored : ∀ content ∈ p.stored a, p.phase = .holding content

lemma moves_of_step {a : Act} (h : p.step files a = some q) : Moves files p a q := by
  obtain ⟨location, phase, aborted⟩ := p
  cases a <;> cases phase <;> cases h
  case wake.waiting =>
    refine ⟨rfl, rfl, nofun, fun content hcontent => ?_, nofun⟩
    cases aborted <;> cases hcontent
  case read.running =>
    refine ⟨rfl, rfl, nofun, fun content hcontent => ?_, nofun⟩
    cases hcontent
    rfl
  case store.holding content =>
    refine ⟨rfl, rfl, nofun, nofun, fun content hcontent => ?_⟩
    rw [List.mem_singleton.mp hcontent]
  case rest.running =>
    refine ⟨rfl, rfl, nofun, fun content hcontent => ?_, nofun⟩
    cases aborted <;> cases hcontent

end RefreshTask

namespace Refreshing

variable {s t u : Refreshing} {a : Act} {acts before after : List Act}

/-- A task does something. -/
structure Turns (s : Refreshing) (i : Nat) (p : RefreshTask) (b : RefreshTask.Act)
    (q : RefreshTask) (t : Refreshing) (loads : List Load) : Prop where
  there : s.tasks[i]? = some p
  moves : RefreshTask.Moves s.files p b q
  loads_eq : loads = (p.stored b).map (Load.mk i)
  eq : t = { s with handle := s.handle.reloads loads, tasks := s.tasks.set i q }

/-- Everything that can happen. -/
lemma step_cases (hstep : s.step a = some (t, loads)) :
    (∃ c, a = .call c ∧ s.call = none ∧ t = s.begin c ∧ loads = [])
      ∨ (∃ task, a = .note ∧ s.call = some task ∧ t = s.noteTask task ∧ loads = [])
      ∨ (∃ i p b q, a = .task i b ∧ Turns s i p b q t loads)
      ∨ ∃ files, a = .write files ∧ t = { s with files } ∧ loads = [] := by
  cases a with
  | call c =>
      rw [step] at hstep
      split_ifs at hstep with hcall
      cases hstep
      exact .inl ⟨c, rfl, hcall, rfl, rfl⟩
  | note =>
      obtain ⟨task, hcall, hresult⟩ := Option.map_eq_some_iff.mp hstep
      cases hresult
      exact .inr (.inl ⟨task, rfl, hcall, rfl, rfl⟩)
  | task i b =>
      obtain ⟨p, hp, hrest⟩ := Option.bind_eq_some_iff.mp hstep
      obtain ⟨q, hq, hresult⟩ := Option.bind_eq_some_iff.mp hrest
      cases hresult
      exact .inr (.inr (.inl ⟨i, p, b, q, rfl, hp, RefreshTask.moves_of_step hq, rfl, rfl⟩))
  | write files =>
      cases hstep
      exact .inr (.inr (.inr ⟨files, rfl, rfl, rfl⟩))

/-- A task is there from the beginning of its call on. -/
lemma of_getElem?_begin (hp : (s.begin c).tasks[i]? = some p) :
    s.tasks[i]? = some p ∨ i = s.tasks.length ∧
      ∃ location, c.location = some location ∧ p = RefreshTask.ofLocation location := by
  rcases Nat.lt_or_ge i s.tasks.length with hlt | hge
  · exact .inl ((List.getElem?_append_left hlt).symm.trans hp)
  · rw [begin, List.getElem?_append_right hge] at hp
    cases hlocation : c.location with
    | none => simp [hlocation] at hp
    | some location =>
        rw [hlocation, Option.map_some, Option.toList_some, List.getElem?_singleton] at hp
        split_ifs at hp with hzero
        cases hp
        exact .inr ⟨by omega, location, rfl, rfl⟩

/-- The task that was noted is aborted, and nothing else is done to a task. -/
lemma getElem?_noteTask (s : Refreshing) (task : Option Nat) (i : Nat) :
    (s.noteTask task).tasks[i]?
      = s.tasks[i]?.map fun p => if s.slot = some i then p.abort else p := by
  cases hslot : s.slot with
  | none => simp [noteTask, hslot]
  | some j =>
      simp only [noteTask, hslot, List.getElem?_modify, Option.some.injEq]
      rfl

/-- What one task does changes no other. -/
lemma Turns.of_getElem? {b : RefreshTask.Act} {j : Nat} {r : RefreshTask}
    (h : Turns s i p b q t loads) (hr : t.tasks[j]? = some r) :
    j = i ∧ r = q ∨ s.tasks[j]? = some r := by
  rw [h.eq, List.getElem?_set] at hr
  split_ifs at hr with hij hlt
  · cases hr
    exact .inl ⟨hij.symm, rfl⟩
  · exact .inr hr

/-- A run is a sequence of acts. -/
lemma isRun : IsRun Refreshing.step run [] (· ++ ·) := .ofLists (fun _ => rfl) fun _ _ _ => rfl

/-- What every step keeps, and what it says of the reloads that come to their end in it, holds of
whatever happens. -/
lemma forall_loads_of_run {I : Refreshing → Prop} {A : Act → Prop} {L : Load → Prop}
    (hstep : ∀ {s t a loads}, I s → A a → s.step a = some (t, loads) →
      I t ∧ ∀ load ∈ loads, L load)
    (hs : I s) (hacts : ∀ a ∈ acts, A a) (hrun : s.run acts = some (t, loads)) :
    I t ∧ ∀ load ∈ loads, L load :=
  isRun.induction (I := fun s _ loads => I s ∧ ∀ load ∈ loads, L load)
    (fun _ _ _ a _ _ ha hs hfirst => by
      obtain ⟨ht, hnow⟩ := hstep hs.1 (hacts a ha) hfirst
      exact ⟨ht, List.forall_mem_append.mpr ⟨hs.2, hnow⟩⟩)
    ⟨hs, nofun⟩ hrun

/-! ## The whitelist in use -/

lemma handle_of_step (hstep : s.step a = some (t, loads)) : t.handle = s.handle.reloads loads := by
  rcases step_cases hstep with ⟨c, -, -, rfl, rfl⟩ | ⟨task, -, -, rfl, rfl⟩ |
    ⟨i, p, b, q, -, hturns⟩ | ⟨files, -, rfl, rfl⟩
  · rfl
  · rfl
  · rw [hturns.eq]
  · rfl

/-- **Nothing but the reloads that come to their end decides which whitelist is in use.** -/
theorem handle_of_run (hrun : s.run acts = some (t, loads)) :
    t.handle = s.handle.reloads loads :=
  isRun.induction (I := fun u _ loads => u.handle = s.handle.reloads loads)
    (fun u _ early _ v now _ hu hstep => by
      rw [handle_of_step hstep, hu, WhitelistHandle.reloads_append]) rfl hrun

/-! ## Aborts -/

/-- A task that is neither noted nor that of the call under way is aborted. -/
def Tended (s : Refreshing) : Prop :=
  ∀ i p, s.tasks[i]? = some p → p.aborted ∨ s.slot = some i ∨ s.call = some (some i)

lemma tended_ofWhitelist (w : Whitelist) (files : Files) : (ofWhitelist w files).Tended := nofun

lemma Tended.step (hs : s.Tended) (hstep : s.step a = some (t, loads)) : t.Tended := by
  intro i p hp
  rcases step_cases hstep with ⟨c, -, hcall, rfl, -⟩ | ⟨task, -, hcall, rfl, -⟩ |
    ⟨j, r, b, q, -, hturns⟩ | ⟨files, -, rfl, -⟩
  · rcases of_getElem?_begin hp with hold | ⟨rfl, location, hlocation, -⟩
    · rcases hs i p hold with haborted | hslot | hthis
      · exact .inl haborted
      · exact .inr (.inl hslot)
      · rw [hcall] at hthis
        cases hthis
    · exact .inr (.inr (by rw [begin, hlocation]; rfl))
  · rw [getElem?_noteTask] at hp
    obtain ⟨r, hr, rfl⟩ := Option.map_eq_some_iff.mp hp
    split_ifs with hslot
    · exact .inl rfl
    · rcases hs i r hr with haborted | hnoted | hthis
      · exact .inl haborted
      · exact absurd hnoted hslot
      · exact .inr (.inl (Option.some.inj (hcall.symm.trans hthis)))
  · rw [hturns.eq]
    rcases hturns.of_getElem? hp with ⟨rfl, rfl⟩ | hother
    · rw [hturns.moves.aborted]
      exact hs i r hturns.there
    · exact hs i p hother
  · exact hs i p hp

lemma Tended.run (hs : s.Tended) (hrun : s.run acts = some (t, loads)) : t.Tended :=
  isRun.invariant (I := Tended) (fun _ _ _ _ _ hs hstep => hs.step hstep) hs hrun

/-! ## One task at a time -/

/-- What a task does, if it can. -/
lemma step_task {b : RefreshTask.Act} (hp : s.tasks[i]? = some p)
    (hq : p.step s.files b = some q) :
    s.step (.task i b)
      = some ({ s with
          handle := s.handle.reloads ((p.stored b).map (Load.mk i)), tasks := s.tasks.set i q },
        (p.stored b).map (Load.mk i)) := by
  rw [step, hp, Option.bind_eq_bind, Option.bind_some, hq]
  rfl

/-- The settings that a call follows. -/
def Act.settings? : Act → Option WhitelistConfig
  | .call c => some c
  | _ => none

/-- A task that has its turn can reload once and still has it. -/
lemma run_reload {location : String} (hp : s.tasks[i]? = some ⟨location, .running, false⟩) :
    s.run [.task i .read, .task i .store]
      = some ({ s with handle := (s.handle.reload (s.files location)).2 },
        [⟨i, s.files location⟩]) := by
  obtain ⟨hlt, hget⟩ := List.getElem?_eq_some_iff.mp hp
  have hread := step_task (b := .read) hp rfl
  have hholding : (s.tasks.set i ⟨location, .holding (s.files location), false⟩)[i]?
      = some ⟨location, .holding (s.files location), false⟩ := List.getElem?_set_self hlt
  have hsame : (s.tasks.set i ⟨location, .holding (s.files location), false⟩).set i
      ⟨location, .running, false⟩ = s.tasks := by
    rw [List.set_set, ← hget, List.set_getElem_self]
  rw [isRun.cons_eq_some hread
    (isRun.singleton_eq_some (step_task (b := .store) hholding rfl))]
  simp only [hsame]
  rfl

/-- Reloads one after the other, each of the same file. -/
lemma exists_run_reloads {location : String} (hp : s.tasks[i]? = some ⟨location, .running, false⟩)
    (period moment fuel due : Nat) :
    ∃ acts loads, (∀ a ∈ acts, a.settings? = none)
      ∧ s.run acts = some ({ s with
          handle := (Refresh.reloads s.files location period moment fuel due s.handle).2 },
        loads) := by
  induction fuel generalizing s due with
  | zero => exact ⟨[], [], nofun, rfl⟩
  | succ fuel ih =>
      rw [Refresh.reloads]
      split_ifs with hdue
      · obtain ⟨acts, loads, hcalls, hrun⟩ := ih (s := { s with
          handle := (s.handle.reload (s.files location)).2 }) hp (due + period)
        exact ⟨_, _, List.forall_mem_append.mpr ⟨by simp [Act.settings?], hcalls⟩,
          isRun.append_eq_some (run_reload hp) hrun⟩
      · exact ⟨[], [], nofun, rfl⟩

/-- A turn of a task that is not aborted, with the files as they are then. -/
lemma exists_run_turn {location : String} (files : Files)
    (hp : s.tasks[i]? = some (.ofLocation location)) (period moment fuel due : Nat) :
    ∃ acts t loads, (∀ a ∈ acts, a.settings? = none) ∧ s.run acts = some (t, loads)
      ∧ t = { s with
        files
        handle := (Refresh.reloads files location period moment fuel due s.handle).2 } := by
  obtain ⟨hlt, hget⟩ := List.getElem?_eq_some_iff.mp hp
  have hwake := step_task (s := { s with files }) (b := .wake) hp rfl
  have hrunning : (s.tasks.set i ⟨location, .running, false⟩)[i]?
      = some ⟨location, .running, false⟩ := List.getElem?_set_self hlt
  obtain ⟨acts, loads, hcalls, hrun⟩ := exists_run_reloads
    (s := { s with files, tasks := s.tasks.set i ⟨location, .running, false⟩ }) hrunning period
    moment fuel due
  have hrest := step_task (s := { s with
    files
    tasks := s.tasks.set i ⟨location, .running, false⟩
    handle := (Refresh.reloads files location period moment fuel due s.handle).2 })
    (b := .rest) hrunning rfl
  have hsame : (s.tasks.set i ⟨location, .running, false⟩).set i (.ofLocation location)
      = s.tasks := by
    rw [List.set_set, ← hget, List.set_getElem_self]
  refine ⟨.write files :: .task i .wake :: (acts ++ [.task i .rest]), _, _, ?_,
    isRun.cons_eq_some rfl (isRun.cons_eq_some hwake
      (isRun.append_eq_some hrun (isRun.singleton_eq_some hrest))), ?_⟩
  · have hlast : ∀ a ∈ acts ++ [.task i .rest], a.settings? = none :=
      List.forall_mem_append.mpr ⟨hcalls, by simp [Act.settings?]⟩
    simpa [Act.settings?] using hlast
  · exact congrArg
      (fun tasks : List RefreshTask => (⟨_, files, tasks, s.slot, s.call⟩ : Refreshing)) hsame

end Refreshing

/-- A refresh that is under way reloads as often as it is due. -/
lemma Refresh.runUntil_eq {now moment : Nat} (r : Refresh) (hcancelled : r.cancelled = false)
    (hperiod : r.period ≠ 0) (hfinished : r.finished = false) :
    r.runUntil files now moment h
      = ({ r with next := some (Refresh.reloads files r.location r.period moment
          (moment + 1 - r.next.getD now) (r.next.getD now) h).1 },
        (Refresh.reloads files r.location r.period moment
          (moment + 1 - r.next.getD now) (r.next.getD now) h).2) := by
  rw [runUntil, hfinished, hcancelled, if_neg Bool.false_ne_true, if_neg (by simp [hperiod])]

/-- A refresh without a period crashes. -/
lemma Refresh.runUntil_of_period_eq_zero {now moment : Nat} (r : Refresh)
    (hperiod : r.period = 0) (hfinished : r.finished = false) :
    r.runUntil files now moment h = ({ r with finished := true }, h) := by
  rw [runUntil, hfinished, if_neg Bool.false_ne_true, if_pos (.inr hperiod)]

/-! ## Dispatchers -/

namespace Dispatcher

open Refreshing (Act)

variable {d : Dispatcher} {s : Refreshing}

/-- What callers do about the whitelist of a dispatcher, and time that goes by. -/
inductive RefreshAct where
  | start (c : WhitelistConfig)
  | elapse (files : Files) (now moment : Nat)

/-- Lets a dispatcher do it. -/
def refreshAct (d : Dispatcher) : RefreshAct → Dispatcher
  | .start c => d.startRefresh c
  | .elapse files now moment => d.runRefresh files now moment

/-- The calls among what is done. -/
def RefreshAct.settings? : RefreshAct → Option WhitelistConfig
  | .start c => some c
  | .elapse .. => none

/-- An open dispatcher with its refresh, as a whitelist whose noted task is this refresh, unless it
has crashed. -/
structure RunsAs (d : Dispatcher) (s : Refreshing) : Prop where
  handle : d.whitelist = s.handle
  call : s.call = none
  slot_lt : ∀ i, s.slot = some i → i < s.tasks.length
  task : ∀ r, d.refresh = some r → r.finished = false → ∃ i, s.slot = some i
    ∧ s.tasks[i]? = some (.ofLocation r.location) ∧ r.cancelled = false
  isOpen : d.pool.isShutdown = false

/-- A call that nothing comes between. -/
lemma RunsAs.start (h : d.RunsAs s) (c : WhitelistConfig) :
    ∃ t, s.run [.call c, .note] = some (t, []) ∧ (d.startRefresh c).RunsAs t := by
  have hcall : s.step (.call c) = some (s.begin c, []) := if_pos h.call
  have hnote : (s.begin c).step .note
      = some ((s.begin c).noteTask (c.location.map fun _ => s.tasks.length), []) := rfl
  refine ⟨_, Refreshing.isRun.cons_eq_some hcall (Refreshing.isRun.singleton_eq_some hnote), ?_⟩
  have hnew {location : String} (hlocation : c.location = some location) :
      ((s.begin c).noteTask (c.location.map fun _ => s.tasks.length)).tasks[s.tasks.length]?
        = some (.ofLocation location) := by
    have hslot : (s.begin c).slot ≠ some s.tasks.length := fun hslot =>
      Nat.lt_irrefl _ (h.slot_lt _ hslot)
    rw [Refreshing.getElem?_noteTask, Refreshing.begin, List.getElem?_append_right (Nat.le_refl _),
      hlocation, Nat.sub_self]
    simp only [Option.map_some, Option.toList_some, List.getElem?_cons_zero]
    exact congrArg some (if_neg hslot)
  refine ⟨h.handle, rfl, fun i hi => ?_, fun r hr _ => ?_, h.isOpen⟩
  · obtain ⟨location, hlocation, rfl⟩ := Option.map_eq_some_iff.mp hi
    exact (List.getElem?_eq_some_iff.mp (hnew hlocation)).1
  · rw [startRefresh, h.isOpen] at hr
    obtain ⟨r', hr', rfl⟩ := Option.map_eq_some_iff.mp hr
    obtain ⟨location, hlocation, rfl⟩ := Option.map_eq_some_iff.mp hr'
    exact ⟨s.tasks.length, by rw [hlocation]; rfl, hnew hlocation, rfl⟩

/-- Time that goes by: the task that is noted has a turn. -/
lemma RunsAs.elapse (h : d.RunsAs s) (files : Files) (now moment : Nat) :
    ∃ acts t loads, (∀ a ∈ acts, a.settings? = none) ∧ s.run acts = some (t, loads)
      ∧ (d.runRefresh files now moment).RunsAs t := by
  cases hrefresh : d.refresh with
  | none =>
      refine ⟨[], s, [], nofun, rfl, ?_⟩
      rw [runRefresh, hrefresh]
      exact h
  | some r =>
      cases hfinished : r.finished with
      | true =>
          refine ⟨[], s, [], nofun, rfl, ?_⟩
          simp only [runRefresh, hrefresh, Refresh.runUntil, hfinished, if_true]
          rw [← hrefresh]
          exact h
      | false =>
          obtain ⟨i, hslot, hwaiting, hcancelled⟩ := h.task r hrefresh hfinished
          rw [runRefresh, hrefresh]
          dsimp only
          by_cases hperiod : r.period = 0
          · -- Nobody hears of the crash, and the task that is noted never has a turn.
            refine ⟨[], s, [], nofun, rfl, ?_⟩
            rw [r.runUntil_of_period_eq_zero hperiod hfinished]
            refine ⟨h.handle, h.call, h.slot_lt, fun r' hr' hrunning => ?_, h.isOpen⟩
            cases hr'
            cases hrunning
          · obtain ⟨acts, t, loads, hcalls, hrun, rfl⟩ := Refreshing.exists_run_turn files hwaiting
              r.period moment (moment + 1 - r.next.getD now) (r.next.getD now)
            refine ⟨acts, _, loads, hcalls, hrun, ?_⟩
            rw [r.runUntil_eq hcancelled hperiod hfinished, h.handle]
            refine ⟨rfl, h.call, h.slot_lt, fun r' hr' _ => ?_, h.isOpen⟩
            cases hr'
            exact ⟨i, hslot, hwaiting, hcancelled⟩

/-- **Whatever callers do with an open dispatcher, and however time goes by, is one of the orders
that are possible**, with the same calls. -/
theorem RunsAs.run (h : d.RunsAs s) (acts : List RefreshAct) :
    ∃ all t loads, s.run all = some (t, loads) ∧ (acts.foldl refreshAct d).RunsAs t
      ∧ all.filterMap Act.settings? = acts.filterMap RefreshAct.settings? := by
  induction acts generalizing d s with
  | nil => exact ⟨[], s, [], rfl, h, rfl⟩
  | cons a acts ih =>
      cases a with
      | start c =>
          obtain ⟨t, hrun, ht⟩ := h.start c
          obtain ⟨rest, u, loads, hrest, hu, hcalls⟩ := ih ht
          refine ⟨_, u, _, Refreshing.isRun.append_eq_some hrun hrest, hu, ?_⟩
          rw [List.filterMap_append, hcalls]
          rfl
      | elapse files now moment =>
          obtain ⟨first, t, loads, hnone, hrun, ht⟩ := h.elapse files now moment
          obtain ⟨rest, u, more, hrest, hu, hcalls⟩ := ih ht
          refine ⟨_, u, _, Refreshing.isRun.append_eq_some hrun hrest, hu, ?_⟩
          rw [List.filterMap_append, hcalls, List.filterMap_eq_nil_iff.mpr hnone]
          rfl

end Dispatcher

end ReviewStream
