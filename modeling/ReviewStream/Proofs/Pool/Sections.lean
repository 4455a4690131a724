import ReviewStream.Proofs.Pool.Outline
import ReviewStream.Proofs.Runs

/-!
# Sections of a pool

What a section does is said once, in `Outline.Step`; here every section is shown to be such a step,
so that nothing further has to look into a section again.

* **`Pool.outline_step`**: the sections of a pool are steps of its outline.
* `Pool.isRun`: a run is a sequence of sections, so that it preserves what every section preserves.
-/

namespace ReviewStream.Pool

variable {J : Type} {p q : Pool J} {id : Nat} {w : Worker J}

/-! ## A worker that looks for a job -/

/-- What a worker finds says why it does what it does. -/
lemma finding_spec (p : Pool J) :
    match p.finding with
    | .leave => p.stage = .stopped ∨ p.max < p.size ∨ p.queue = [] ∧ p.stage = .shutdown
    | .start job rest => p.stage ≠ .stopped ∧ p.size ≤ p.max ∧ p.queue = job :: rest
    | .park => p.stage = .running ∧ p.size ≤ p.max ∧ p.queue = [] := by
  rw [finding]
  by_cases hstop : p.stage = .stopped
  · simp [hstop]
  by_cases hsize : p.max < p.size
  · simp [hstop, hsize]
  have hfits : p.size ≤ p.max := Nat.le_of_not_lt hsize
  rw [if_neg hstop, if_neg hsize]
  cases hqueue : p.queue with
  | cons job rest => exact ⟨hstop, hfits, rfl⟩
  | nil =>
      by_cases hshut : p.stage = .shutdown
      · simp [hshut]
      · have hrun : p.stage = .running := by
          cases hstage : p.stage <;> simp_all
        simp [hrun, hfits]

lemma advance_of_leave (h : p.finding = .leave) : p.advance id = (p.dismiss id, []) := by
  rw [advance, h]

lemma advance_of_start {job : J} {rest : List J} (h : p.finding = .start job rest) :
    p.advance id
      = ({ p with queue := rest }.setPhase id (.running job), [.started id job]) := by
  rw [advance, h]

lemma advance_of_park (h : p.finding = .park) : p.advance id = (p.park id, []) := by
  rw [advance, h]

/-- The worker that looks for a job is one of the pool's workers. -/
lemma size_eq_dismiss_succ (hp : p.Numbered) (h : p.worker? id = some w) :
    p.size = (p.dismiss id).size + 1 := by
  have := congrArg Outline.size (outline_eq_dismiss_plus hp h)
  simpa using this

/-- A worker that looks for a job leaves, takes the oldest job or parks. -/
lemma outline_advance (hp : p.Numbered) (h : p.worker? id = some w) :
    Outline.Advance id (p.dismiss id).outline (p.advance id).1.outline (p.advance id).2 := by
  have hsize := size_eq_dismiss_succ hp h
  have hfinding := finding_spec p
  cases hf : p.finding with
  | leave =>
      simp only [hf] at hfinding
      rw [advance_of_leave hf]
      refine .leave ?_
      rw [size_outline, ← hsize]
      exact hfinding
  | start job rest =>
      have hnumbered : Numbered { p with queue := rest } := hp.congr rfl rfl
      simp only [hf] at hfinding
      obtain ⟨hstage, hfits, hqueue⟩ := hfinding
      rw [advance_of_start hf]
      dsimp only
      rw [outline_setPhase hnumbered (mem_ids_of_worker? h)]
      refine .start hstage ?_ hqueue
      rw [size_outline, ← hsize]
      exact hfits
  | park =>
      simp only [hf] at hfinding
      obtain ⟨hstage, hfits, hqueue⟩ := hfinding
      rw [advance_of_park hf]
      dsimp only
      rw [outline_park]
      refine .park hstage ?_ hqueue
      rw [size_outline, ← hsize]
      exact hfits

/-! ## What callers do -/

lemma isShutdown_eq_false_iff (p : Pool J) : p.isShutdown = false ↔ p.stage = .running := by
  simp [isShutdown]

lemma isShutdown_eq_true_iff (p : Pool J) : p.isShutdown = true ↔ p.stage ≠ .running := by
  simp [isShutdown]

lemma outline_submit (p : Pool J) (job : J) :
    p.outline.Step (.submit job) (p.settled [.accepted job] (p.submit job)).1.outline
      (p.settled [.accepted job] (p.submit job)).2 := by
  cases hshut : p.isShutdown with
  | true =>
      have hsubmit : p.submit job = .error .rejected := if_pos hshut
      rw [hsubmit]
      exact .reject ((isShutdown_eq_true_iff p).mp hshut)
  | false =>
      have hrun := (isShutdown_eq_false_iff p).mp hshut
      by_cases hsize : p.size < p.core ∨ p.size = 0
      · have hsubmit : p.submit job = .ok (spawn { p with queue := p.queue ++ [job] }) := by
          rw [submit]
          rw [if_neg (by simp [hshut])]
          refine congrArg Except.ok (if_pos ?_)
          simp only [Bool.or_eq_true, decide_eq_true_eq]
          exact hsize
        rw [hsubmit]
        dsimp only [settled]
        rw [outline_spawn]
        exact .submitHire hrun (by simpa using hsize)
      · have hsubmit : p.submit job = .ok (wakeOne { p with queue := p.queue ++ [job] }) := by
          rw [submit]
          rw [if_neg (by simp [hshut])]
          refine congrArg Except.ok (if_neg ?_)
          simp only [Bool.or_eq_true, decide_eq_true_eq]
          exact hsize
        rw [hsubmit]
        dsimp only [settled]
        rw [outline_wakeOne]
        refine .submitWake hrun ?_ ?_ <;> simp only [size_outline, outline_core] <;> omega

lemma outline_setCore (p : Pool J) (core : Nat) :
    p.outline.Step (.setCore core) (p.settled [] (p.setCore core)).1.outline
      (p.settled [] (p.setCore core)).2 := by
  by_cases hmax : p.max < core
  · have hset : p.setCore core = .error (.invalidBounds core p.max) := if_pos hmax
    rw [hset]
    exact .refuseCore hmax
  have hfits : core ≤ p.outline.max := Nat.le_of_not_lt hmax
  rw [setCore]
  rw [if_neg hmax]
  dsimp only [settled]
  split_ifs with hgrow hshrink
  · rw [Bool.and_eq_true, decide_eq_true_eq, Bool.not_eq_true', isShutdown_eq_false_iff] at hgrow
    have h := Outline.Step.growCore hfits hgrow.1 hgrow.2
    rw [size_outline] at h
    rw [outline_spawnUpTo]
    exact h
  · rw [outline_wakeAll]
    exact .shrinkCore hfits hshrink
  · refine .keepCore hfits (Nat.le_of_not_lt hshrink) ?_
    rw [Bool.and_eq_true, decide_eq_true_eq, Bool.not_eq_true', isShutdown_eq_false_iff] at hgrow
    by_cases hcore : p.core < core
    · exact .inr fun hrun => hgrow ⟨hcore, hrun⟩
    · exact .inl (Nat.le_antisymm (Nat.le_of_not_lt hshrink) (Nat.le_of_not_lt hcore))

lemma outline_setMax (p : Pool J) (max : Nat) :
    p.outline.Step (.setMax max) (p.settled [] (p.setMax max)).1.outline
      (p.settled [] (p.setMax max)).2 := by
  by_cases hbad : max = 0 ∨ max < p.core
  · have hset : p.setMax max = .error (.invalidBounds p.core max) :=
      if_pos (by simpa only [Bool.or_eq_true, decide_eq_true_eq] using hbad)
    rw [hset]
    exact .refuseMax hbad
  have hpos : 0 < max := Nat.pos_of_ne_zero fun h => hbad (.inl h)
  have hcore : p.outline.core ≤ max := Nat.le_of_not_lt fun h => hbad (.inr h)
  rw [setMax]
  rw [if_neg (by simpa only [Bool.or_eq_true, decide_eq_true_eq] using hbad)]
  dsimp only [settled]
  split_ifs with hsize
  · rw [outline_wakeAll]
    refine .lowerMax hpos hcore ?_
    rw [size_outline]
    exact hsize
  · refine .keepMax hpos hcore ?_
    rw [size_outline]
    exact Nat.le_of_not_lt hsize

lemma outline_setKeepAlive (p : Pool J) (keepAlive : Nat) :
    p.outline.Step (.setKeepAlive keepAlive) (p.setKeepAlive keepAlive).outline [] := by
  rw [setKeepAlive]
  by_cases h : keepAlive < p.keepAlive
  · rw [if_pos h, outline_wakeAll]
    exact .shortenKeepAlive h
  · rw [if_neg h]
    exact .prolongKeepAlive (Nat.le_of_not_lt h)

/-! ## Sections are steps -/

/-- A worker whose job is over counts as one that looks for a job. -/
lemma outline_finish {i : Nat} {job : J} (hp : p.Numbered)
    (h : p.worker? id = some ⟨i, .running job⟩) :
    Outline.Advance id (p.dismiss id).outline ((p.setPhase id .waking).advance id).1.outline
      ((p.setPhase id .waking).advance id).2 := by
  have hadvance := outline_advance (hp.setPhase id .waking) (worker?_setPhase h .waking)
  rwa [dismiss_setPhase] at hadvance

/-- **Every section is a step of the outline.** -/
theorem outline_step {a : Action J} {r : Pool J × List (Occurrence J)} (hp : p.Numbered)
    (h : p.step a = some r) : p.outline.Step a r.1.outline r.2 := by
  cases a with
  | submit job =>
      obtain rfl := Option.some.inj h
      exact outline_submit p job
  | setCore core =>
      obtain rfl := Option.some.inj h
      exact outline_setCore p core
  | setMax max =>
      obtain rfl := Option.some.inj h
      exact outline_setMax p max
  | setKeepAlive keepAlive =>
      obtain rfl := Option.some.inj h
      exact outline_setKeepAlive p keepAlive
  | shutdown =>
      obtain rfl := Option.some.inj h
      dsimp only [shutdown]
      rw [outline_wakeAll]
      exact .shutdown
  | shutdownNow =>
      obtain rfl := Option.some.inj h
      dsimp only [shutdownNow]
      rw [outline_wakeAll]
      exact .shutdownNow
  | expire id =>
      simp only [step] at h
      split at h <;> cases h
      next i hw =>
        dsimp only
        rw [outline_setPhase hp (mem_ids_of_worker? hw)]
        exact .expire (outline_eq_dismiss_plus hp hw)
  | look id =>
      simp only [step] at h
      split at h
      next i hw =>
        obtain rfl := Option.some.inj h
        exact .look (outline_eq_dismiss_plus hp hw) (outline_advance hp hw)
      next i hw =>
        have hrest := outline_eq_dismiss_plus hp hw
        split_ifs at h with hidle <;> obtain rfl := Option.some.inj h
        · simp only [Bool.and_eq_true, List.isEmpty_iff, isShutdown, Bool.not_eq_true',
            bne_eq_false_iff_eq] at hidle
          exact .retire hrest hidle.1 hidle.2
        · exact .look hrest (outline_advance hp hw)
      next => cases h
  | finish id ending =>
      simp only [step] at h
      split at h <;> cases h
      next i job hw =>
        exact .finish (outline_eq_dismiss_plus hp hw) (outline_finish hp hw)

/-! ## Runs -/

/-- A run is a sequence of sections. -/
lemma isRun : IsRun (Pool.step (J := J)) run [] (· ++ ·) :=
  .ofLists (fun _ => rfl) fun _ _ _ => rfl

/-- Runs keep the workers' numbers apart. -/
lemma Numbered.run {actions : List (Action J)} {r : Pool J × List (Occurrence J)}
    (hp : p.Numbered) (h : p.run actions = some r) : r.1.Numbered :=
  isRun.invariant (I := Numbered) (fun _ _ _ _ _ hp hstep => hp.step hstep) hp h

end ReviewStream.Pool
