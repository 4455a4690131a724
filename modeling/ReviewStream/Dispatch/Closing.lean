import ReviewStream.Dispatch.Basic
import ReviewStream.Pool.Await

/-!
# Calls that shut a dispatcher down

Any number of calls may shut a dispatcher down while its workers go on and others post to it, resize
it, change its listeners or shut it down too.  Between two turns at the pool's lock a call may be
overtaken by all of them.

* `ShutdownCall`: how far such a call has come.
* `ShutdownCall.next?`: what it does at its next turn.
* `Dispatcher.Attended`: a dispatcher and the calls that shut it down, step by step.
-/

namespace ReviewStream

/-! ## Sections of the pool -/

namespace Dispatcher

/-- Whether the pool may take a section: an item is over only when its calls are made. -/
def allowsMove (d : Dispatcher) : Pool.Move WorkItem → Bool
  | .served a => d.allows a
  | .submitStarved .. | .setCoreStarved .. => true

/-- One section of the pool, and what happened in it; none if no such section can take place. -/
def move (d : Dispatcher) (m : Pool.Move WorkItem) :
    Option (Dispatcher × List (Pool.Occurrence WorkItem)) :=
  if d.allowsMove m then
    (d.pool.move m).map fun (pool, happened) => (happened.foldl takeUp { d with pool }, happened)
  else none

end Dispatcher

/-! ## One call -/

/-- How far a call has come that shuts a dispatcher down. -/
inductive ShutdownCall where
  /-- About to close the dispatcher; it may wait after that. -/
  | closing (waits : Bool)
  /-- Waits, no longer than a grace period, until the queue is worked off. -/
  | draining (wait : Wait)
  /-- The grace period is over; about to give up what is still queued. -/
  | discarding
  /-- Waits, no longer than another grace period, until the running items are over. -/
  | lingering (wait : Wait)
  /-- Has returned, and whether it has waited. -/
  | left (waited : Bool)
deriving DecidableEq

namespace ShutdownCall

/-- Wakes a call that waits for the end of the pool. -/
def wake : ShutdownCall → ShutdownCall
  | .draining wait => .draining wait.wake
  | .lingering wait => .lingering wait.wake
  | c => c

/-- The grace period of a call that waits ends; none if it does not wait. -/
def expire? : ShutdownCall → Option ShutdownCall
  | .draining wait => wait.expire?.map .draining
  | .lingering wait => wait.expire?.map .lingering
  | .closing _ | .discarding | .left _ => none

/-- How far a call has come that has looked whether the queue is worked off. -/
def afterDraining : Wait → ShutdownCall
  | .returned true => .left true
  | .returned false => .discarding
  | wait => .draining wait

/-- How far a call has come that has looked whether the running items are over. -/
def afterLingering : Wait → ShutdownCall
  | .returned _ => .left true
  | wait => .lingering wait

/-- The next turn of a call: what becomes of the dispatcher, what happened to its items, and how far
the call has come; none if the call waits or has returned. -/
def next? (d : Dispatcher) :
    ShutdownCall → Option (Dispatcher × List (Pool.Occurrence WorkItem) × ShutdownCall)
  | .closing true => some (d.close, [], .draining .looking)
  | .closing false => some (d.close, [], .left false)
  | .draining wait => (wait.look? d.pool.isTerminated).map fun w => (d, [], afterDraining w)
  | .discarding =>
    let (items, d) := d.discard
    some (d, [.dropped items], .lingering .looking)
  | .lingering wait => (wait.look? d.pool.isTerminated).map fun w => (d, [], afterLingering w)
  | .left _ => none

end ShutdownCall

/-! ## Everybody -/

namespace Dispatcher

/-- A dispatcher and the calls that shut it down. -/
structure Attended where
  dispatcher : Dispatcher
  calls : List ShutdownCall

namespace Attended

/-- What can happen to a dispatcher and to those who shut it down. -/
inductive Act where
  /-- A section of the pool: somebody posts an item, resizes the pool or sets its keep-alive time,
  or a worker has its turn. -/
  | work (m : Pool.Move WorkItem)
  /-- A worker makes the next call of its item. -/
  | call (worker : Nat)
  /-- Somebody changes who is listening, or what is let through. -/
  | change (registry : Registry) (whitelist : WhitelistHandle)
  /-- Somebody begins to shut the dispatcher down, and may wait. -/
  | shutdown (waits : Bool)
  /-- A call that shuts it down has its turn. -/
  | goOn (call : Nat)
  /-- The grace period of a call ends. -/
  | expire (call : Nat)

/-- Nobody but the calls that shut a dispatcher down may shut its pool down. -/
def isOpen : Pool.Move WorkItem → Bool
  | .served .shutdown | .served .shutdownNow => false
  | _ => true

/-- One step, with what happened to items and the calls of listeners in it; none if no such step can
take place. -/
def step (population : Registry.Population) (s : Attended) :
    Act → Option (Attended × List (Pool.Occurrence WorkItem) × List Call)
  | .work m =>
    if isOpen m then
      (s.dispatcher.move m).map fun (d, happened) =>
        let calls := if s.dispatcher.pool.lastLeaves d.pool then s.calls.map (·.wake) else s.calls
        (⟨d, calls⟩, happened, [])
    else none
  | .call worker =>
    (s.dispatcher.step population (.call worker)).map fun (d, made) => (⟨d, s.calls⟩, [], made)
  | .change registry whitelist =>
    some (⟨{ s.dispatcher with registry, whitelist }, s.calls⟩, [], [])
  | .shutdown waits => some (⟨s.dispatcher, s.calls ++ [.closing waits]⟩, [], [])
  | .goOn call => do
    let c ← s.calls[call]?
    let (d, happened, next) ← c.next? s.dispatcher
    return (⟨d, s.calls.set call next⟩, happened, [])
  | .expire call => do
    let c ← s.calls[call]?
    let next ← c.expire?
    return (⟨s.dispatcher, s.calls.set call next⟩, [], [])

/-- A sequence of steps, with what happened to items and the calls of listeners in them. -/
def run (population : Registry.Population) (s : Attended) :
    List Act → Option (Attended × List (Pool.Occurrence WorkItem) × List Call)
  | [] => some (s, [], [])
  | act :: rest => do
    let (next, happened, made) ← s.step population act
    let (last, later, after) ← next.run population rest
    return (last, happened ++ later, made ++ after)

end Attended

end Dispatcher

end ReviewStream
