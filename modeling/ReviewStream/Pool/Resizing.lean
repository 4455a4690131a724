import ReviewStream.Pool.Basic

/-!
# Resizing at the same time

A resize is not one section of its pool.  It reads the core size, decides by that which bound to
move first, and moves the two of them in two sections.  Sections of other callers may come in
between, those of other resizes among them.

* `Resize`: one call, and how far it has come.
* `Pool.Resizing`: a pool and the calls that resize it, step by step.
-/

namespace ReviewStream

open Pool (Action Occurrence)

variable {J : Type}

/-! ## Calls -/

/-- How far a resize has come. -/
inductive Resize.Progress (J : Type) where
  /-- About to read the core size. -/
  | called
  /-- About to carry out a section, after which there may be another one. -/
  | going (next : Action J) (rest : List (Action J))
  | returned
  | failed (e : PoolError)
deriving DecidableEq

/-- A call that resizes a pool. -/
structure Resize (J : Type) where
  /-- The size that is asked for. -/
  size : Nat
  progress : Resize.Progress J
  /-- Whether another resize has moved a bound since this one read the core size. -/
  overtaken : Bool
deriving DecidableEq

namespace Resize

/-- A call that has just been made. -/
def ofSize (size : Nat) : Resize J := ⟨size, .called, false⟩

/-- The size that both bounds are to get, which is at least one. -/
def target (c : Resize J) : Nat := Nat.max c.size 1

/-- A call that still has these sections to carry out. -/
def withPlan (c : Resize J) : List (Action J) → Resize J
  | [] => { c with progress := .returned }
  | a :: rest => { c with progress := .going a rest }

/-- A call that is refused a section gives up. -/
def fail (c : Resize J) (e : PoolError) : Resize J := { c with progress := .failed e }

/-- Another call moves a bound. -/
def overtake (c : Resize J) : Resize J :=
  match c.progress with
  | .going _ _ => { c with overtaken := true }
  | _ => c

/-- Whether the call is over. -/
def isOver (c : Resize J) : Bool :=
  match c.progress with
  | .returned | .failed _ => true
  | .called | .going _ _ => false

end Resize

namespace Pool

/-- Whether a section is there to move a bound. -/
def Action.movesBound : Action J → Bool
  | .setCore _ | .setMax _ => true
  | _ => false

/-! ## Pools that are resized -/

/-- A pool and the calls that resize it, in the order in which they were made. -/
structure Resizing (J : Type) where
  pool : Pool J
  calls : List (Resize J)

namespace Resizing

/-- What can happen to a pool and to the calls that resize it. -/
inductive Act (J : Type) where
  /-- A resize is called. -/
  | call (size : Nat)
  /-- A call takes the lock for its next section. -/
  | proceed (call : Nat)
  /-- Any other section of the pool. -/
  | work (a : Action J)
deriving DecidableEq

/-- A pool that nobody resizes. -/
def ofPool (p : Pool J) : Resizing J := ⟨p, []⟩

/-- A call takes the lock; none if it is over. -/
def goOn (r : Resizing J) (i : Nat) (c : Resize J) : Option (Resizing J) :=
  match c.progress with
  | .called =>
    some { r with calls := r.calls.set i (c.withPlan (resizePlan r.pool.core c.target)) }
  | .going a rest =>
    match r.pool.step a with
    | some (_, [.refused e]) => some { r with calls := r.calls.set i (c.fail e) }
    | some (pool, _) =>
      some { pool, calls := (r.calls.map Resize.overtake).set i (c.withPlan rest) }
    | none => none
  | .returned | .failed _ => none

/-- One step; none if it cannot take place. -/
def step (r : Resizing J) : Act J → Option (Resizing J)
  | .call size => some { r with calls := r.calls ++ [.ofSize size] }
  | .proceed i => r.calls[i]?.bind (r.goOn i)
  | .work a =>
    if a.movesBound then none else (r.pool.step a).map fun (pool, _) => { r with pool }

/-- A sequence of steps. -/
def run (r : Resizing J) : List (Act J) → Option (Resizing J)
  | [] => some r
  | act :: rest => (r.step act).bind fun next => next.run rest

end Resizing

end Pool

end ReviewStream
