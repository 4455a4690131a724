import Mathlib.Data.List.Nodup
import Mathlib.Data.List.Perm.Basic
import ReviewStream.Pool.Basic

/-!
# The workers of a pool

Workers are told apart by their numbers, so what happens to one of them leaves all others alone.
Here the operations on the list of workers are described up to its order, which is all that
counting needs.

* `Pool.Numbered`: the numbers of the workers differ, and the next one is free.
* `Pool.workers_perm`: a worker, with the others behind it.
* **`Pool.Numbered.step`**: every section keeps the numbers apart.
-/

namespace ReviewStream

variable {J : Type}

/-! ## Lists of workers -/

namespace Worker

/-- Numbers differ, so a worker is the only one with its number. -/
lemma perm_cons_filter {w : Worker J} :
    ∀ {ws : List (Worker J)}, (ws.map (·.id)).Nodup → w ∈ ws →
      ws.Perm (w :: ws.filter (·.id ≠ w.id))
  | [], _, hw => absurd hw List.not_mem_nil
  | v :: ws, hnodup, hw => by
      rw [List.map_cons, List.nodup_cons] at hnodup
      rcases List.mem_cons.mp hw with rfl | hw
      · have hothers : ws.filter (·.id ≠ w.id) = ws := by
          refine List.filter_eq_self.mpr fun v hv => ?_
          simpa using fun hid : v.id = w.id => hnodup.1 (hid ▸ List.mem_map_of_mem hv)
        rw [List.filter_cons_of_neg (by simp), hothers]
      · have hid : v.id ≠ w.id := fun hid => hnodup.1 (hid ▸ List.mem_map_of_mem hw)
        rw [List.filter_cons_of_pos (by simpa using hid)]
        exact ((perm_cons_filter hnodup.2 hw).cons v).trans (.swap w v _)

/-- Changing the phase of one worker changes no other. -/
lemma perm_map_phase {id : Nat} (phase : Phase J) :
    ∀ {ws : List (Worker J)}, (ws.map (·.id)).Nodup → id ∈ ws.map (·.id) →
      (ws.map fun w => if w.id = id then { w with phase } else w).Perm
        (⟨id, phase⟩ :: ws.filter (·.id ≠ id))
  | [], _, hid => absurd hid List.not_mem_nil
  | v :: ws, hnodup, hid => by
      rw [List.map_cons, List.nodup_cons] at hnodup
      by_cases hv : v.id = id
      · have hothers : ∀ w ∈ ws, w.id ≠ id := fun w hw hwid =>
          hnodup.1 (by rw [hv, ← hwid]; exact List.mem_map_of_mem hw)
        have hsame : ws.map (fun w => if w.id = id then { w with phase } else w) = ws :=
          (List.map_congr_left fun w hw => if_neg (hothers w hw)).trans (List.map_id' ws)
        have hfilter : ws.filter (·.id ≠ id) = ws :=
          List.filter_eq_self.mpr fun w hw => by simpa using hothers w hw
        rw [List.map_cons, if_pos hv, hsame, List.filter_cons_of_neg (by simpa using hv), hfilter,
          hv]
      · have hws : id ∈ ws.map (·.id) := by
          rcases List.mem_cons.mp hid with h | h
          · exact absurd h.symm hv
          · exact h
        rw [List.map_cons, if_neg hv, List.filter_cons_of_pos (by simpa using hv)]
        exact ((perm_map_phase phase hnodup.2 hws).cons v).trans (.swap _ v _)

lemma filter_map_phase (id : Nat) (phase : Phase J) : ∀ ws : List (Worker J),
    (ws.map fun w => if w.id = id then { w with phase } else w).filter (·.id ≠ id)
      = ws.filter (·.id ≠ id)
  | [] => rfl
  | w :: ws => by
      by_cases h : w.id = id <;> simpa [h] using filter_map_phase id phase ws

@[simp] lemma id_wake (w : Worker J) : w.wake.id = w.id := by
  rw [wake]
  split_ifs <;> rfl

@[simp] lemma map_id_wakeFirst : ∀ ws : List (Worker J),
    (wakeFirst ws).map (·.id) = ws.map (·.id)
  | [] => rfl
  | w :: ws => by
      rw [wakeFirst]
      split_ifs
      · simp
      · simp [map_id_wakeFirst ws]

end Worker

namespace Pool

variable {p q : Pool J} {id : Nat} {w : Worker J}

/-! ## Numbers -/

/-- The numbers of the workers. -/
def ids (p : Pool J) : List Nat := p.workers.map (·.id)

/-- The workers' numbers differ, and the number of the next worker is free. -/
structure Numbered (p : Pool J) : Prop where
  nodup : p.ids.Nodup
  fresh : ∀ id ∈ p.ids, id < p.nextId

lemma id_of_worker? (h : p.worker? id = some w) : w.id = id := by
  simpa using List.find?_some h

lemma mem_of_worker? (h : p.worker? id = some w) : w ∈ p.workers :=
  List.mem_of_find?_eq_some h

lemma mem_ids_of_worker? (h : p.worker? id = some w) : id ∈ p.ids :=
  id_of_worker? h ▸ List.mem_map_of_mem (mem_of_worker? h)

/-- A worker and the others. -/
lemma workers_perm (hp : p.Numbered) (h : p.worker? id = some w) :
    p.workers.Perm (w :: (p.dismiss id).workers) := by
  have := Worker.perm_cons_filter hp.nodup (mem_of_worker? h)
  rwa [id_of_worker? h] at this

lemma setPhase_perm (hp : p.Numbered) (h : id ∈ p.ids) (phase : Phase J) :
    (p.setPhase id phase).workers.Perm (⟨id, phase⟩ :: (p.dismiss id).workers) :=
  Worker.perm_map_phase phase hp.nodup h

lemma park_perm (p : Pool J) (id : Nat) :
    (p.park id).workers.Perm (⟨id, .parked⟩ :: (p.dismiss id).workers) :=
  List.perm_append_singleton ..

/-- A worker that is taken off may have been in any phase. -/
lemma dismiss_setPhase (p : Pool J) (id : Nat) (phase : Phase J) :
    (p.setPhase id phase).dismiss id = p.dismiss id := by
  have := Worker.filter_map_phase id phase p.workers
  simp only [dismiss, setPhase]
  rw [this]

/-- A worker is found in the phase into which it was put. -/
lemma worker?_setPhase (h : p.worker? id = some w) (phase : Phase J) :
    (p.setPhase id phase).worker? id = some ⟨id, phase⟩ := by
  have hsame : ∀ v : Worker J,
      decide ((if v.id = id then { v with phase } else v).id = id) = decide (v.id = id) := by
    intro v
    split_ifs <;> rfl
  rw [worker?] at h
  rw [worker?, setPhase, List.find?_map]
  simp only [Function.comp_def, hsame, h, Option.map_some, id_of_worker? h, if_true]

/-- What keeps the numbers keeps them apart. -/
lemma Numbered.congr (hp : p.Numbered) (hids : q.ids = p.ids) (hnext : q.nextId = p.nextId) :
    q.Numbered where
  nodup := hids ▸ hp.nodup
  fresh := by
    rw [hids, hnext]
    exact hp.fresh

/-- A new worker gets the free number. -/
lemma Numbered.spawn (hp : p.Numbered) : p.spawn.Numbered where
  nodup := by
    have hnew : p.nextId ∉ p.ids := fun h => Nat.lt_irrefl _ (hp.fresh _ h)
    simpa [Pool.spawn, ids] using List.nodup_append.mpr
      ⟨hp.nodup, List.nodup_singleton p.nextId, by rintro a ha b hb rfl; simp_all⟩
  fresh := by
    intro id hid
    rw [ids, Pool.spawn, List.map_append, List.mem_append] at hid
    rcases hid with hid | hid
    · exact Nat.lt_succ_of_lt (hp.fresh id hid)
    · rw [List.map_singleton, List.mem_singleton] at hid
      exact hid ▸ Nat.lt_succ_self _

lemma Numbered.spawnUpTo : ∀ (n : Nat) {p : Pool J}, p.Numbered → (spawnUpTo n p).Numbered
  | 0, _, hp => hp
  | n + 1, p, hp => by
      rw [Pool.spawnUpTo]
      split_ifs
      · exact Numbered.spawnUpTo n hp.spawn
      · exact hp

@[simp] lemma ids_wakeAll (p : Pool J) : p.wakeAll.ids = p.ids := by
  simp [ids, wakeAll]

@[simp] lemma ids_wakeOne (p : Pool J) : p.wakeOne.ids = p.ids := by
  simp [ids, wakeOne]

@[simp] lemma ids_setPhase (p : Pool J) (id : Nat) (phase : Phase J) :
    (p.setPhase id phase).ids = p.ids := by
  rw [ids, setPhase, List.map_map]
  refine List.map_congr_left fun w _ => ?_
  dsimp only [Function.comp]
  split_ifs <;> rfl

lemma Numbered.wakeAll (hp : p.Numbered) : p.wakeAll.Numbered :=
  hp.congr (ids_wakeAll p) rfl

lemma Numbered.wakeOne (hp : p.Numbered) : p.wakeOne.Numbered :=
  hp.congr (ids_wakeOne p) rfl

lemma Numbered.setPhase (hp : p.Numbered) (id : Nat) (phase : Phase J) :
    (p.setPhase id phase).Numbered :=
  hp.congr (ids_setPhase p id phase) rfl

lemma Numbered.dismiss (hp : p.Numbered) (id : Nat) : (p.dismiss id).Numbered := by
  have hsub : (p.dismiss id).ids.Sublist p.ids := List.filter_sublist.map _
  exact ⟨hsub.nodup hp.nodup, fun i hi => hp.fresh i (hsub.subset hi)⟩

lemma Numbered.park (hp : p.Numbered) (h : id ∈ p.ids) : (p.park id).Numbered := by
  have hids : (p.park id).ids.Perm (id :: (p.dismiss id).ids) := (park_perm p id).map _
  constructor
  · refine hids.nodup_iff.mpr (List.nodup_cons.mpr ⟨?_, (hp.dismiss id).nodup⟩)
    simp [ids, Pool.dismiss]
  · intro i hi
    rcases List.mem_cons.mp (hids.mem_iff.mp hi) with rfl | hi
    · exact hp.fresh i h
    · exact (hp.dismiss id).fresh i hi

lemma Numbered.advance (hp : p.Numbered) (h : id ∈ p.ids) : (p.advance id).1.Numbered := by
  rw [Pool.advance]
  split
  · exact hp.dismiss id
  next job rest _ =>
    exact Numbered.setPhase (hp.congr (q := { p with queue := rest }) rfl rfl) id (.running job)
  · exact hp.park h

lemma numbered_ofSize (size keepAlive : Nat) : (ofSize size keepAlive : Pool J).Numbered :=
  Numbered.spawn ⟨List.nodup_nil, by simp [ids]⟩

lemma Numbered.submit {job : J} (hp : p.Numbered) (h : p.submit job = .ok q) : q.Numbered := by
  rw [Pool.submit] at h
  split_ifs at h
  dsimp only at h
  have hp' : Numbered { p with queue := p.queue ++ [job] } := hp.congr rfl rfl
  split_ifs at h <;> cases h
  · exact hp'.spawn
  · exact hp'.wakeOne

lemma Numbered.setCore {core : Nat} (hp : p.Numbered) (h : p.setCore core = .ok q) :
    q.Numbered := by
  rw [Pool.setCore] at h
  split_ifs at h
  all_goals
    have hp' : Numbered { p with core } := hp.congr rfl rfl
    cases h
  · exact hp'.spawnUpTo _
  · exact hp'.wakeAll
  · exact hp'

lemma Numbered.setMax {max : Nat} (hp : p.Numbered) (h : p.setMax max = .ok q) :
    q.Numbered := by
  rw [Pool.setMax] at h
  split_ifs at h
  dsimp only at h
  have hp' : Numbered { p with max } := hp.congr rfl rfl
  split_ifs at h <;> cases h
  · exact hp'.wakeAll
  · exact hp'

/-- An operation that is refused changes nothing. -/
lemma Numbered.settled {accepted : List (Occurrence J)} {r : Except PoolError (Pool J)}
    (hp : p.Numbered) (hr : ∀ s, r = .ok s → s.Numbered) : (p.settled accepted r).1.Numbered := by
  cases r with
  | ok s => exact hr s rfl
  | error e => exact hp

/-- **Every section keeps the workers' numbers apart.** -/
theorem Numbered.step {a : Action J} {r : Pool J × List (Occurrence J)} (hp : p.Numbered)
    (h : p.step a = some r) : r.1.Numbered := by
  cases a with
  | submit job =>
      obtain rfl := Option.some.inj h
      exact hp.settled fun s hs => hp.submit hs
  | setCore core =>
      obtain rfl := Option.some.inj h
      exact hp.settled fun s hs => hp.setCore hs
  | setMax max =>
      obtain rfl := Option.some.inj h
      exact hp.settled fun s hs => hp.setMax hs
  | setKeepAlive keepAlive =>
      obtain rfl := Option.some.inj h
      have hp' : Numbered { p with keepAlive } := hp.congr rfl rfl
      rw [Pool.setKeepAlive]
      dsimp only
      split_ifs
      · exact hp'.wakeAll
      · exact hp'
  | shutdown =>
      obtain rfl := Option.some.inj h
      exact Numbered.wakeAll (hp.congr rfl rfl)
  | shutdownNow =>
      obtain rfl := Option.some.inj h
      exact Numbered.wakeAll (hp.congr rfl rfl)
  | expire id =>
      simp only [Pool.step] at h
      split at h <;> cases h
      exact hp.setPhase id .expired
  | look id =>
      simp only [Pool.step] at h
      split at h
      next hw =>
        obtain rfl := Option.some.inj h
        exact hp.advance (mem_ids_of_worker? hw)
      next hw =>
        split_ifs at h <;> obtain rfl := Option.some.inj h
        · exact hp.dismiss id
        · exact hp.advance (mem_ids_of_worker? hw)
      next => cases h
  | finish id ending =>
      simp only [Pool.step] at h
      split at h <;> cases h
      next hw =>
        refine (hp.setPhase id .waking).advance ?_
        rw [ids_setPhase]
        exact mem_ids_of_worker? hw

end Pool

end ReviewStream
