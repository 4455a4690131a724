import ReviewStream.Pool.Threads

/-!
# Waiting for the end of a pool

A caller may wait until a pool is terminated, but no longer than until a deadline.  It looks at the
pool when it comes and whenever it is woken, which happens when the last worker leaves; at the
deadline it looks for the last time.

* `Wait`: how far such a call has come.
* `Pool.Watched`: a pool and the calls that wait for its end, step by step.
-/

namespace ReviewStream

/-! ## Calls that wait -/

/-- How far a call has come that waits for the end of a pool. -/
inductive Wait where
  /-- About to take the lock, at first or after it was woken. -/
  | looking
  /-- Waits to be woken. -/
  | waiting
  /-- Its deadline has passed; about to take the lock for the last time. -/
  | late
  /-- Has returned, and whether it said that the pool is terminated. -/
  | returned (terminated : Bool)
deriving DecidableEq

namespace Wait

/-- A call that holds the lock looks at the pool; none if the call takes no lock now. -/
def look? (terminated : Bool) : Wait → Option Wait
  | .looking => some (if terminated then .returned true else .waiting)
  | .late => some (.returned terminated)
  | .waiting | .returned _ => none

/-- The deadline of a call passes; none if the call does not wait. -/
def expire? : Wait → Option Wait
  | .waiting => some .late
  | .looking | .late | .returned _ => none

/-- Wakes a call that waits. -/
def wake : Wait → Wait
  | .waiting => .looking
  | w => w

end Wait

namespace Pool

variable {J : Type}

/-- Whether the last worker of a pool is gone after a section: then all who wait for the end of the
pool are woken. -/
def lastLeaves (before after : Pool J) : Bool :=
  !before.workers.isEmpty && after.workers.isEmpty

@[simp]
theorem lastLeaves_self (p : Pool J) : p.lastLeaves p = false := Bool.not_and_self _

/-! ## Pools that are waited for -/

/-- A pool and the calls that wait for its end. -/
structure Watched (J : Type) where
  pool : Pool J
  waits : List Wait

namespace Watched

/-- What can happen to a pool and to those who wait for its end. -/
inductive Act (J : Type) where
  /-- A section of the pool. -/
  | work (m : Move J)
  /-- Somebody comes to wait. -/
  | await
  /-- A call that is under way takes the lock. -/
  | look (call : Nat)
  /-- The deadline of a call passes. -/
  | expire (call : Nat)
deriving DecidableEq

/-- A pool that nobody waits for. -/
def ofPool (p : Pool J) : Watched J := ⟨p, []⟩

/-- A call goes on; none if it cannot. -/
def goOn (s : Watched J) (call : Nat) (next? : Wait → Option Wait) : Option (Watched J) := do
  let wait ← s.waits[call]?
  let next ← next? wait
  return { s with waits := s.waits.set call next }

/-- One step, and what happened to jobs in it; none if no such step can take place. -/
def step (s : Watched J) : Act J → Option (Watched J × List (Occurrence J))
  | .work m =>
    (s.pool.move m).map fun (pool, happened) =>
      let waits := if s.pool.lastLeaves pool then s.waits.map Wait.wake else s.waits
      ({ pool, waits }, happened)
  | .await => some ({ s with waits := s.waits ++ [.looking] }, [])
  | .look call => (s.goOn call (Wait.look? s.pool.isTerminated)).map fun s => (s, [])
  | .expire call => (s.goOn call Wait.expire?).map fun s => (s, [])

/-- A sequence of steps, and what happened to jobs in them. -/
def run (s : Watched J) : List (Act J) → Option (Watched J × List (Occurrence J))
  | [] => some (s, [])
  | act :: rest => do
    let (next, happened) ← s.step act
    let (last, later) ← next.run rest
    return (last, happened ++ later)

end Watched

end Pool

end ReviewStream
