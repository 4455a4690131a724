import ReviewStream.Pool.Basic

/-!
# Threads that cannot be started

The system may refuse to start a thread for a worker.  A job that was to get a new worker is queued
all the same if another worker can take it, and else it is refused.  A pool that was to grow keeps
its new core size and the workers that were started before.

* `Pool.Move`: a section, and what the system refuses in it.
* `Pool.move`: one such section, with what happened in it.
-/

namespace ReviewStream.Pool

variable {J : Type}

/-- A section, and whether the system starts the threads that it asks for. -/
inductive Move (J : Type) where
  /-- Every thread that the section asks for is started. -/
  | served (a : Action J)
  /-- The thread that was to be started for a job is refused. -/
  | submitStarved (job : J) (reason : String)
  /-- Of the threads that were to be started for a larger core size the next one after the first
  `started` is refused. -/
  | setCoreStarved (core started : Nat) (reason : String)
deriving DecidableEq

/-- How many workers growth to `core` starts for the jobs that are waiting. -/
def growth (p : Pool J) (core : Nat) : Nat :=
  Nat.min (Nat.min (core - p.core) p.queue.length) (core - p.size)

/-- One section, and what happened in it; none if no such section can take place, which is so too if
it does not ask for the thread that is refused. -/
def move (p : Pool J) : Move J → Option (Pool J × List (Occurrence J))
  | .served a => p.step a
  | .submitStarved job reason =>
    if p.stage ≠ .running ∨ p.core ≤ p.size ∧ 0 < p.size then none
    else if p.size = 0 then some (p, [.refused (.spawnFailed reason)])
    else some (wakeOne { p with queue := p.queue ++ [job] }, [.accepted job])
  | .setCoreStarved core started reason =>
    if p.stage ≠ .running ∨ p.max < core ∨ p.growth core ≤ started then none
    else some (spawnUpTo started { p with core }, [.refused (.spawnFailed reason)])

end ReviewStream.Pool
