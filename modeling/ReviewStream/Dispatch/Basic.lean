import ReviewStream.Config.Basic
import ReviewStream.Dispatch.Work
import ReviewStream.Pool.Rest
import ReviewStream.Whitelist.Refresh

/-!
# The event dispatcher

A dispatcher queues work items on a pool of workers.  The worker that takes an item settles which
calls the item causes and makes them one after the other.

* `Dispatcher.step`: one section of the pool, or one call of a listener.
* `Dispatcher.run`: a sequence of them, with the calls in the order in which they were made.
* `Dispatcher.settle`: the dispatcher left alone until it is at rest.
* `Dispatcher.shutdown`: takes no more items; a shutdown that waits discards what is still queued
  after the grace period.
-/

namespace ReviewStream

/-- A dispatcher. -/
structure Dispatcher where
  pool : Pool WorkItem
  registry : Registry
  whitelist : WhitelistHandle
  decoder : Decoder
  /-- Seconds that a shutdown waits for the queue, and again for the running items. -/
  graceSecs : UInt64
  /-- The calls that workers still have to make for the items they run. -/
  pending : List (Nat × List Call)
  refresh : Option Refresh

namespace Dispatcher

/-- The dispatcher that the settings describe. -/
def ofConfig (c : DispatchConfig) (w : Whitelist) (decoder : Decoder) : Dispatcher where
  pool := .ofSize c.workerThreads.toNat (c.keepAlive.toNat * 1000)
  registry := c.ignoreEmail.foldl (fun r m => r.setIgnoredEmail m.1 m.2) .empty
  whitelist := ⟨w⟩
  decoder
  graceSecs := c.shutdownGraceSecs
  pending := []
  refresh := none

/-! ## Steps -/

/-- What can happen to a dispatcher. -/
inductive Action where
  /-- A section of the pool. -/
  | work (a : Pool.Action WorkItem)
  /-- A worker makes the next call of its item. -/
  | call (worker : Nat)
deriving DecidableEq

/-- The calls that a worker still has to make. -/
def pendingOf (d : Dispatcher) (worker : Nat) : List Call :=
  (d.pending.lookup worker).getD []

/-- Sets the calls that a worker still has to make. -/
def setPending (d : Dispatcher) (worker : Nat) (calls : List Call) : Dispatcher :=
  let others := d.pending.filter (·.1 != worker)
  { d with pending := if calls.isEmpty then others else others ++ [(worker, calls)] }

/-- A worker that starts an item settles its calls. -/
def takeUp (d : Dispatcher) : Pool.Occurrence WorkItem → Dispatcher
  | .started worker item =>
    d.setPending worker (item.calls d.whitelist.snapshot d.decoder d.registry)
  | _ => d

/-- Whether the pool may take a section: an item is over only when its calls are made. -/
def allows (d : Dispatcher) : Pool.Action WorkItem → Bool
  | .finish worker _ => (d.pendingOf worker).isEmpty
  | _ => true

/-- One step, and the call that was made in it; none if no such step can take place. -/
def step (population : Registry.Population) (d : Dispatcher) :
    Action → Option (Dispatcher × List Call)
  | .work a =>
    if d.allows a then
      (d.pool.step a).map fun (pool, happened) => (happened.foldl takeUp { d with pool }, [])
    else none
  | .call worker =>
    match d.pendingOf worker with
    | [] => none
    | c :: rest =>
      let d := d.setPending worker rest
      some ({ d with registry := d.registry.afterCall population c }, [c])

/-- A sequence of steps, and the calls that were made in it. -/
def run (population : Registry.Population) (d : Dispatcher) :
    List Action → Option (Dispatcher × List Call)
  | [] => some (d, [])
  | a :: rest => do
    let (d, calls) ← d.step population a
    let (d, later) ← d.run population rest
    return (d, calls ++ later)

/-! ## What callers do -/

/-- Queues an item; a dispatcher that is shut down drops it. -/
def post (d : Dispatcher) (item : WorkItem) : Dispatcher :=
  match d.pool.submit item with
  | .ok pool => { d with pool }
  | .error _ => d

/-- Sets the number of workers. -/
def resize (d : Dispatcher) (workers : Nat) : Except PoolError Unit × Dispatcher :=
  let (result, pool) := d.pool.resize workers
  (result, { d with pool })

/-- Sets the seconds that an idle worker stays, which are never fewer than the least keep-alive
time. -/
def setKeepAliveSecs (d : Dispatcher) (secs : UInt64) : Dispatcher :=
  { d with pool := d.pool.setKeepAlive ((max secs DispatchConfig.leastKeepAliveSecs).toNat * 1000) }

/-- The seconds that an idle worker stays. -/
def keepAliveSecs (d : Dispatcher) : Nat := d.pool.keepAlive / 1000

/-- Follows other settings of the whitelist: an earlier refresh ends at once, and the one that the
settings ask for takes its place. -/
def startRefresh (d : Dispatcher) (c : WhitelistConfig) : Dispatcher :=
  { d with refresh := (Refresh.start? c).map fun r =>
      if d.pool.isShutdown then r.cancel else r }

/-- Lets the refresh of the whitelist run from `now` until a moment. -/
def runRefresh (files : Files) (now moment : Nat) (d : Dispatcher) : Dispatcher :=
  match d.refresh with
  | none => d
  | some r =>
    let (r, whitelist) := r.runUntil files now moment d.whitelist
    { d with refresh := some r, whitelist }

/-! ## Coming to rest -/

/-- The turn that is due, if any: a worker looks for work, or it makes its calls, if they are not
held, and is done with its item. -/
def due? (held : Bool) (d : Dispatcher) : Option (List Action) :=
  match d.pool.workers.find? (·.isLooking) with
  | some w => some [.work (.look w.id)]
  | none =>
    let free := d.pool.workers.find? fun w =>
      w.isRunning && (!held || (d.pendingOf w.id).isEmpty)
    free.map fun w =>
      (d.pendingOf w.id).map (fun _ => .call w.id) ++ [.work (.finish w.id .returned)]

/-- Lets at most `fuel` turns happen. -/
def settleWithin (population : Registry.Population) (held : Bool) :
    Nat → Dispatcher → Dispatcher × List Call
  | 0, d => (d, [])
  | fuel + 1, d =>
    match (due? held d).bind (d.run population) with
    | none => (d, [])
    | some (d, calls) =>
      let (d, later) := settleWithin population held fuel d
      (d, calls ++ later)

/-- Lets the dispatcher come to rest.  While calls are held none of them is made. -/
def settle (population : Registry.Population) (held : Bool) (d : Dispatcher) :
    Dispatcher × List Call :=
  settleWithin population held d.pool.effort d

/-! ## Shutting down -/

/-- The moment by which a grace period that begins now is over, in seconds of a clock that counts in
signed words of 64 bits. -/
def deadline? (now : Nat) (grace : UInt64) : Option Nat :=
  let moment := now + grace.toNat
  if (moment : Int) ≤ Int64.maxValue.toInt then some moment else none

/-- Takes no more items and stops refreshing the whitelist. -/
def close (d : Dispatcher) : Dispatcher :=
  { d with pool := d.pool.shutdown, refresh := d.refresh.map Refresh.cancel }

/-- Gives up the items that are still queued. -/
def discard (d : Dispatcher) : List WorkItem × Dispatcher :=
  let (items, pool) := d.pool.shutdownNow
  (items, { d with pool })

/-- A shutdown of a dispatcher that comes to rest within every grace period.  One that waits has no
result if the deadline of the grace period cannot be expressed. -/
def shutdown (population : Registry.Population) (held wait : Bool) (now : Nat) (d : Dispatcher) :
    Option (Dispatcher × List Call) :=
  let (d', calls) := d.close.settle population held
  if !wait then some (d', calls)
  else if (deadline? now d.graceSecs).isNone then none
  else if d'.pool.isTerminated then some (d', calls)
  else
    let (d', later) := d'.discard.2.settle population held
    some (d', calls ++ later)

end Dispatcher

end ReviewStream
