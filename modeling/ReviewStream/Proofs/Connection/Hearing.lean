import Mathlib.Data.List.Nodup
import Mathlib.Tactic.Lemma
import ReviewStream.Connection.Basic

/-!
# What can be seen of a connection

The state can be read at any moment, and observers are told of streams that are established and of
streams that are down.

* `ConnectionState.MayFollow`: which state may be seen after which.
* `heard`: what one observer is told.
* `Alternates`: streams that are established and go down in turn.
* **`heard_tellAll`**: an observer that is registered once is told once.
-/

namespace ReviewStream

/-! ## States -/

namespace ConnectionState

variable {s next : ConnectionState}

/-- Connected is entered from connecting, left when the stream is down or for good, and nothing
comes after shutting down.  A state may also stay what it is. -/
def MayFollow (s next : ConnectionState) : Prop :=
  (next = .connected → s = .connected ∨ s = .connecting)
    ∧ (s = .connected → next = .connected ∨ next = .disconnected ∨ next = .shuttingDown)
    ∧ (s = .shuttingDown → next = .shuttingDown)

/-- How often connected is entered along a path. -/
def entries (s : ConnectionState) : List ConnectionState → Nat
  | [] => 0
  | next :: rest => (if s ≠ .connected ∧ next = .connected then 1 else 0) + next.entries rest

lemma mayFollow_refl (s : ConnectionState) : s.MayFollow s := by cases s <;> simp [MayFollow]

lemma mayFollow_shuttingDown (s : ConnectionState) : s.MayFollow .shuttingDown := by
  cases s <;> simp [MayFollow]

lemma mayFollow_enter_disconnected (s : ConnectionState) : s.MayFollow (s.enter .disconnected) := by
  cases s <;> simp [MayFollow, enter, mayChange]

lemma mayFollow_enter_connecting (h : s ≠ .connected) : s.MayFollow (s.enter .connecting) := by
  cases s <;> simp_all [MayFollow, enter, mayChange]

end ConnectionState

/-! ## What observers hear -/

/-- What one observer is told. -/
def heard (id : String) (deeds : List Deed) : List ConnectionEvent :=
  deeds.filterMap fun
    | .tell x e => if x = id then some e else none
    | _ => none

/-- Whether a deed neither tells anybody anything nor opens a stream. -/
def Deed.isHidden : Deed → Bool
  | .tell _ _ | .call (.openStream _ _) => false
  | _ => true

/-- Streams are established and go down in turn, from one moment to another; the flags tell whether
one is established. -/
inductive Alternates : Bool → List ConnectionEvent → Bool → Prop
  | nil (up : Bool) : Alternates up [] up
  | established {rest : List ConnectionEvent} {up : Bool} (h : Alternates true rest up) :
      Alternates false (.established :: rest) up
  | down {rest : List ConnectionEvent} {up : Bool} (h : Alternates false rest up) :
      Alternates true (.down :: rest) up

/-- The event that has begun a stream, if one is established. -/
def begun (up : Bool) : List ConnectionEvent := if up then [.established] else []

/-- Streams that were established and went down. -/
def rounds (n : Nat) : List ConnectionEvent := (List.replicate n [.established, .down]).flatten

lemma heard_append (id : String) (xs ys : List Deed) :
    heard id (xs ++ ys) = heard id xs ++ heard id ys := List.filterMap_append

lemma Alternates.append {a b c : Bool} {xs ys : List ConnectionEvent} (h : Alternates a xs b)
    (hnext : Alternates b ys c) : Alternates a (xs ++ ys) c := by
  induction h with
  | nil _ => exact hnext
  | established _ ih => exact .established (ih hnext)
  | down _ ih => exact .down (ih hnext)

lemma rounds_succ (n : Nat) : rounds (n + 1) = .established :: .down :: rounds n := rfl

/-- Streams one after the other, of which the last one may still be established. -/
lemma Alternates.exists_rounds {a b : Bool} {xs : List ConnectionEvent} (h : Alternates a xs b) :
    ∃ n, begun a ++ xs = rounds n ++ begun b := by
  induction h with
  | nil up => exact ⟨0, List.append_nil _⟩
  | established _ ih => exact ih
  | down _ ih =>
      obtain ⟨n, hn⟩ := ih
      refine ⟨n + 1, ?_⟩
      rw [rounds_succ, List.cons_append, List.cons_append, ← hn]
      rfl

lemma count_rounds (n : Nat) : (rounds n).count .established = (rounds n).count .down := by
  induction n with
  | zero => rfl
  | succ n ih => simp [rounds_succ, ih]

/-- Someone is among the observers, once. -/
structure ListenerSet.Informs (s : ListenerSet Observer) (id : String) : Prop where
  nodup : (s.snapshot.map (·.id)).Nodup
  mem : id ∈ s.snapshot.map (·.id)

lemma heard_map_tell (id : String) (e : ConnectionEvent) (xs : List (Instance Observer)) :
    heard id (xs.map fun x => .tell x.id e) = List.replicate ((xs.map (·.id)).count id) e := by
  induction xs with
  | nil => rfl
  | cons x xs ih =>
      rw [heard] at ih
      by_cases hx : x.id = id
      · simp [heard, hx, ih, List.replicate_succ]
      · simp [heard, hx, ih]

/-- Whoever is among the observers hears what they are told. -/
lemma heard_tellAll {c : Connection} {id : String} (h : c.listeners.Informs id)
    (e : ConnectionEvent) : heard id (c.tellAll e) = [e] := by
  rw [Connection.tellAll, heard_map_tell, List.count_eq_one_of_mem h.nodup h.mem]
  rfl

namespace ListenerSet

variable {s : ListenerSet Observer} {id : String}

lemma Informs.add (h : s.Informs id) (x : Instance Observer) : (s.add x).2.Informs id := by
  by_cases hx : s.contains x.id = true
  · rw [ListenerSet.add, if_pos hx]
    exact h
  · have hnew : x.id ∉ s.snapshot.map (·.id) := by simpa [contains, snapshot] using hx
    have hids : (s.add x).2.snapshot.map (·.id) = s.snapshot.map (·.id) ++ [x.id] := by
      simp [ListenerSet.add, hx, snapshot]
    constructor
    · rw [hids]
      refine List.nodup_append.mpr ⟨h.nodup, List.nodup_singleton _, ?_⟩
      rintro a ha b hb rfl
      exact hnew (List.mem_singleton.mp hb ▸ ha)
    · rw [hids]
      exact List.mem_append_left _ h.mem

lemma Informs.remove (h : s.Informs id) {other : String} (hne : other ≠ id) :
    (s.remove other).2.Informs id := by
  by_cases hother : s.contains other = true
  · have hmembers : (s.remove other).2.snapshot = s.snapshot.eraseP (·.id == other) := by
      rw [ListenerSet.remove, if_pos hother]
      rfl
    obtain ⟨x, hx, hid⟩ := List.mem_map.mp h.mem
    constructor
    · rw [hmembers]
      exact h.nodup.sublist (List.eraseP_sublist.map _)
    · rw [hmembers]
      refine List.mem_map.mpr ⟨x, (List.mem_eraseP_of_neg ?_).mpr hx, hid⟩
      simpa [hid] using hne.symm
  · rw [ListenerSet.remove, if_neg hother]
    exact h

end ListenerSet

end ReviewStream
