import ReviewStream.Pool.Basic

/-!
# A pool coming to rest

Left alone, the workers of a pool come to rest: each one runs a job that goes on, is parked or has
left.

* `Pool.settle`: lets every worker look until none is left that would; jobs end at once unless they
  are held.
* `Pool.retire`: the keep-alive time of every parked worker runs out.
-/

namespace ReviewStream

/-- How much a worker may still do before it parks or leaves. -/
def Worker.pending {J : Type} (w : Worker J) : Nat :=
  match w.phase with
  | .waking | .expired => 2
  | .running _ => 1
  | .parked => 0

namespace Pool

variable {J : Type}

/-- The turn that is due, if any: a worker looks, or a job that is not held ends. -/
def due? (held : Bool) (p : Pool J) : Option (Action J) :=
  match p.workers.find? (·.isLooking) with
  | some w => some (.look w.id)
  | none =>
    if held then none
    else (p.workers.find? (·.isRunning)).map fun w => .finish w.id .returned

/-- A bound of the turns until rest. -/
def effort (p : Pool J) : Nat :=
  p.workers.foldr (fun w n => w.pending + n) (2 * p.queue.length)

/-- Lets at most `fuel` turns happen. -/
def settleWithin (held : Bool) : Nat → Pool J → Pool J × List (Occurrence J)
  | 0, p => (p, [])
  | fuel + 1, p =>
    match (due? held p).bind p.step with
    | none => (p, [])
    | some (q, happened) =>
      let (r, later) := settleWithin held fuel q
      (r, happened ++ later)

/-- Lets the workers come to rest.  While jobs are held none of them ends. -/
def settle (held : Bool) (p : Pool J) : Pool J × List (Occurrence J) :=
  settleWithin held p.effort p

/-- The keep-alive time of every parked worker runs out. -/
def retire (p : Pool J) : Pool J :=
  { p with workers := p.workers.map fun w =>
      if w.isParked then { w with phase := .expired } else w }

/-- The jobs that ended, in order. -/
def endedJobs (happened : List (Occurrence J)) : List J :=
  happened.filterMap fun
    | .finished _ job _ => some job
    | _ => none

end Pool

end ReviewStream
