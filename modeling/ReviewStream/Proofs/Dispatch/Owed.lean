import Mathlib.Data.List.Perm.Subperm
import ReviewStream.Dispatch.Basic
import ReviewStream.Proofs.Pool.Running

/-!
# Calls that are owed

A worker that has taken an item owes the calls that the item causes, and makes them one by one.

* `Dispatcher.owed`: the calls that workers still have to make.
* `Dispatcher.Ledger`: only workers that run an item owe calls.
* `Dispatcher.step_cases`: a step is a section of the pool or a call.
* **`Dispatcher.work_spec`**, **`Dispatcher.call_spec`**: what a section of the pool and a call do
  to the calls that are owed.
-/

namespace ReviewStream

open Pool (startedJobs)

/-- The entry of a key, and the others. -/
lemma perm_cons_filter_of_lookup {α : Type} {key : Nat} {value : α} :
    ∀ {entries : List (Nat × α)}, (entries.map Prod.fst).Nodup → entries.lookup key = some value →
      entries.Perm ((key, value) :: entries.filter (·.1 != key))
  | [], _, h => by cases h
  | (k, v) :: entries, hnodup, h => by
      rw [List.map_cons, List.nodup_cons] at hnodup
      obtain ⟨hfresh, hnodup⟩ := hnodup
      rw [List.lookup_cons] at h
      rw [List.filter_cons]
      by_cases hk : key = k
      · subst hk
        have hothers : entries.filter (·.1 != key) = entries := by
          refine List.filter_eq_self.mpr fun entry hentry => ?_
          have hne : entry.1 ≠ key := fun heq => hfresh (List.mem_map.mpr ⟨entry, hentry, heq⟩)
          simpa using hne
        obtain rfl : v = value := by simpa using h
        simp [hothers]
      · have hkey : (key == k) = false := by simpa using hk
        have hkept : (k != key) = true := by simpa using Ne.symm hk
        rw [hkey] at h
        rw [if_pos hkept]
        exact ((perm_cons_filter_of_lookup hnodup h).cons _).trans (.swap _ _ _)

namespace Dispatcher

variable {d d' : Dispatcher} {a : Pool.Action WorkItem}
  {r : Pool WorkItem × List (Pool.Occurrence WorkItem)} {worker : Nat} {rest : List Call} {c : Call}

/-- The calls that an item causes as things are. -/
def callsOf (d : Dispatcher) (item : WorkItem) : List Call :=
  item.calls d.whitelist.snapshot d.decoder d.registry

/-- The calls that workers still have to make. -/
def owed (d : Dispatcher) : List Call := d.pending.flatMap (·.2)

/-- Calls are owed by workers that run an item, each of them in one entry. -/
structure Ledger (d : Dispatcher) : Prop where
  numbered : d.pool.Numbered
  nodup : (d.pending.map Prod.fst).Nodup
  owing : ∀ entry ∈ d.pending, entry.2 ≠ [] ∧ d.pool.Runs entry.1

lemma owed_setPending (d : Dispatcher) (worker : Nat) (calls : List Call) :
    (d.setPending worker calls).owed
      = (d.pending.filter (·.1 != worker)).flatMap (·.2) ++ calls := by
  rw [owed, setPending]
  dsimp only
  split_ifs with h
  · rw [List.isEmpty_iff.mp h, List.append_nil]
  · simp

lemma Ledger.setPending (h : d.Ledger) (hruns : d.pool.Runs worker) (calls : List Call) :
    (d.setPending worker calls).Ledger := by
  have hothers : ((d.pending.filter (·.1 != worker)).map Prod.fst).Nodup :=
    h.nodup.sublist (List.filter_sublist.map _)
  have howing : ∀ entry ∈ d.pending.filter (·.1 != worker),
      entry.2 ≠ [] ∧ d.pool.Runs entry.1 :=
    fun entry hentry => h.owing entry (List.mem_of_mem_filter hentry)
  by_cases hcalls : calls.isEmpty
  · have hpending : (d.setPending worker calls).pending = d.pending.filter (·.1 != worker) :=
      if_pos hcalls
    exact ⟨h.numbered, hpending ▸ hothers, hpending ▸ howing⟩
  · have hpending : (d.setPending worker calls).pending
        = d.pending.filter (·.1 != worker) ++ [(worker, calls)] := if_neg hcalls
    refine ⟨h.numbered, ?_, ?_⟩
    · rw [hpending, List.map_append, List.nodup_append]
      refine ⟨hothers, List.nodup_singleton _, ?_⟩
      simp only [List.mem_map, List.mem_filter, List.map_cons, List.map_nil, List.mem_singleton]
      rintro _ ⟨entry, ⟨-, hne⟩, rfl⟩ _ rfl
      simpa using hne
    · rw [hpending]
      intro entry hentry
      rcases List.mem_append.mp hentry with hentry | hentry
      · exact howing entry hentry
      · obtain rfl := List.mem_singleton.mp hentry
        exact ⟨fun hnil => hcalls (List.isEmpty_iff.mpr hnil), hruns⟩

/-- The entry of a worker that owes calls. -/
lemma Ledger.pending_perm (h : d.Ledger) (hcalls : d.pendingOf worker = c :: rest) :
    d.pending.Perm ((worker, c :: rest) :: d.pending.filter (·.1 != worker)) := by
  rw [pendingOf] at hcalls
  cases hfound : d.pending.lookup worker with
  | none =>
      rw [hfound] at hcalls
      cases hcalls
  | some calls =>
      rw [hfound] at hcalls
      obtain rfl : calls = c :: rest := hcalls
      exact perm_cons_filter_of_lookup h.nodup hfound

/-- A worker that owes nothing has no entry. -/
lemma Ledger.ne_of_pendingOf_eq_nil (h : d.Ledger) (hnone : d.pendingOf worker = []) :
    ∀ entry ∈ d.pending, entry.1 ≠ worker := by
  intro entry hentry heq
  cases hfound : d.pending.lookup worker with
  | none =>
      have hother := List.lookup_eq_none_iff.mp hfound entry hentry
      simp [heq] at hother
  | some calls =>
      have hmem : (worker, calls) ∈ d.pending :=
        (perm_cons_filter_of_lookup h.nodup hfound).mem_iff.mpr List.mem_cons_self
      rw [pendingOf, hfound] at hnone
      exact (h.owing _ hmem).1 hnone

/-- No more workers owe calls than there are. -/
lemma Ledger.length_pending_le (h : d.Ledger) : d.pending.length ≤ d.pool.size := by
  have hids : (d.pending.map Prod.fst).Subset d.pool.ids := by
    intro id hid
    obtain ⟨entry, hentry, rfl⟩ := List.mem_map.mp hid
    exact (h.owing entry hentry).2.mem_ids
  have hlength := (List.subperm_of_subset h.nodup hids).length_le
  simpa [Pool.ids, Pool.size] using hlength

/-! ## What one step does -/

/-- A step is a section of the pool, in which the calls of an item may get settled, or a call. -/
lemma step_cases {population : Registry.Population} {action : Action} {calls : List Call}
    (h : d.step population action = some (d', calls)) :
    (∃ a r, action = .work a ∧ d.allows a = true ∧ d.pool.step a = some r
      ∧ d' = r.2.foldl takeUp { d with pool := r.1 } ∧ calls = [])
    ∨ ∃ worker c rest, action = .call worker ∧ d.pendingOf worker = c :: rest
      ∧ d' = { d.setPending worker rest with registry := d.registry.afterCall population c }
      ∧ calls = [c] := by
  cases action with
  | work a =>
      rw [step] at h
      split_ifs at h with hallows
      obtain ⟨r, hr, hnext⟩ := Option.map_eq_some_iff.mp h
      obtain ⟨rfl, rfl⟩ := Prod.mk.inj hnext
      exact .inl ⟨a, r, rfl, hallows, hr, rfl, rfl⟩
  | call worker =>
      rw [step] at h
      split at h
      · cases h
      next c rest hcalls =>
        obtain ⟨rfl, rfl⟩ := Prod.mk.inj (Option.some.inj h)
        exact .inr ⟨worker, c, rest, rfl, hcalls, rfl, rfl⟩

/-- A run is a sequence of steps. -/
lemma isRun {population : Registry.Population} :
    IsRun (Dispatcher.step population) (run population) [] (· ++ ·) :=
  .ofLists (fun _ => rfl) fun _ _ _ => rfl

/-- Nothing that decides which calls an item causes is different. -/
structure SameRules (d d' : Dispatcher) : Prop where
  registry_eq : d'.registry = d.registry
  whitelist_eq : d'.whitelist = d.whitelist
  decoder_eq : d'.decoder = d.decoder

lemma SameRules.trans {d'' : Dispatcher} (h : d.SameRules d') (h' : d'.SameRules d'') :
    d.SameRules d'' :=
  ⟨h'.registry_eq.trans h.registry_eq, h'.whitelist_eq.trans h.whitelist_eq,
    h'.decoder_eq.trans h.decoder_eq⟩

lemma SameRules.callsOf_eq (h : d.SameRules d') : d'.callsOf = d.callsOf := by
  funext item
  rw [callsOf, callsOf, h.registry_eq, h.whitelist_eq, h.decoder_eq]

/-- Sections that start no item settle no calls. -/
lemma foldl_takeUp_of_not_started : ∀ {happened : List (Pool.Occurrence WorkItem)}
    {d : Dispatcher}, (∀ worker item, .started worker item ∉ happened) →
      happened.foldl takeUp d = d ∧ startedJobs happened = []
  | [], _, _ => ⟨rfl, rfl⟩
  | o :: happened, d, h => by
      have ih := @foldl_takeUp_of_not_started happened d fun worker item hmem =>
        h worker item (List.mem_cons_of_mem _ hmem)
      cases o with
      | started worker item => exact absurd List.mem_cons_self (h worker item)
      | _ => exact ih

/-- A section interrupts no worker that owes calls. -/
lemma Ledger.withPool (h : d.Ledger) (hallows : d.allows a = true)
    (hstep : d.pool.step a = some r) : Ledger { d with pool := r.1 } where
  numbered := h.numbered.step hstep
  nodup := h.nodup
  owing := by
    intro entry hentry
    obtain ⟨hcalls, hruns⟩ := h.owing entry hentry
    refine ⟨hcalls, hruns.step h.numbered hstep ?_⟩
    -- The item of a worker is over only when the worker owes nothing more.
    rintro ending rfl
    have hnone : d.pendingOf entry.1 = [] := List.isEmpty_iff.mp hallows
    exact h.ne_of_pendingOf_eq_nil hnone entry hentry rfl

/-- **What a section of the pool does.**  The calls of an item that is started are owed after those
that were owed before, and nothing else changes. -/
theorem work_spec (h : d.Ledger) (hallows : d.allows a = true) (hstep : d.pool.step a = some r)
    (hd : d' = r.2.foldl takeUp { d with pool := r.1 }) :
    d'.pool = r.1 ∧ d.SameRules d' ∧ d'.Ledger
      ∧ d'.owed = d.owed ++ (startedJobs r.2).flatMap d.callsOf := by
  subst hd
  have hpool := h.withPool hallows hstep
  -- A worker that finds an item owes nothing at that moment.
  have hfound : ∀ {worker item}, .started worker item ∈ r.2 → d.pendingOf worker = [] →
      let next := takeUp { d with pool := r.1 } (.started worker item)
      next.pool = r.1 ∧ d.SameRules next ∧ next.Ledger
        ∧ next.owed = d.owed ++ [item].flatMap d.callsOf := by
    intro worker item hmem hnone
    refine ⟨rfl, ⟨rfl, rfl, rfl⟩, hpool.setPending (Pool.runs_of_started hstep hmem) _, ?_⟩
    rw [takeUp, owed_setPending, List.flatMap_singleton]
    have hothers : d.pending.filter (·.1 != worker) = d.pending :=
      List.filter_eq_self.mpr fun entry hentry => by
        simpa using h.ne_of_pendingOf_eq_nil hnone entry hentry
    exact congrArg (fun entries => entries.flatMap Prod.snd ++ d.callsOf item) hothers
  rcases (Pool.outline_step h.numbered hstep).started_spec with
    hnone | ⟨worker, item, rfl, hhappened⟩ | ⟨worker, old, ending, item, rfl, hhappened⟩
  · obtain ⟨hfold, hstarted⟩ :=
      foldl_takeUp_of_not_started (d := { d with pool := r.1 }) hnone
    rw [hfold, hstarted]
    exact ⟨rfl, ⟨rfl, rfl, rfl⟩, hpool, (List.append_nil _).symm⟩
  · have hnone : d.pendingOf worker = [] := by
      by_contra hcalls
      obtain ⟨c, rest, hcalls⟩ := List.exists_cons_of_ne_nil hcalls
      have hmem := (h.pending_perm hcalls).mem_iff.mpr List.mem_cons_self
      exact Pool.not_runs_of_look h.numbered hstep (h.owing _ hmem).2
    have := hfound (hhappened ▸ List.mem_singleton_self _) hnone
    rwa [hhappened]
  · have hnone : d.pendingOf worker = [] := List.isEmpty_iff.mp hallows
    have := hfound (hhappened ▸ List.mem_cons_of_mem _ (List.mem_singleton_self _)) hnone
    rwa [hhappened]

/-- **What a call does.**  It is one of the calls that were owed, and the first one of them if there
is only one worker. -/
theorem call_spec (h : d.Ledger) (hcalls : d.pendingOf worker = c :: rest) :
    (d.setPending worker rest).Ledger ∧ d.owed.Perm (c :: (d.setPending worker rest).owed)
      ∧ (d.pool.size ≤ 1 → d.owed = c :: (d.setPending worker rest).owed) := by
  have hperm := h.pending_perm hcalls
  have hmem := hperm.mem_iff.mpr List.mem_cons_self
  refine ⟨h.setPending (h.owing _ hmem).2 rest, ?_, fun hsize => ?_⟩
  · rw [owed_setPending]
    exact (hperm.flatMap_right _).trans (List.perm_append_comm.cons c)
  · have hlength := h.length_pending_le
    rw [hperm.length_eq, List.length_cons] at hlength
    have hothers : d.pending.filter (·.1 != worker) = [] :=
      List.eq_nil_of_length_eq_zero (by omega)
    rw [hothers] at hperm
    rw [owed_setPending, hothers, owed, List.perm_singleton.mp hperm]
    simp

end Dispatcher

end ReviewStream
