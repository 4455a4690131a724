import ReviewStream.Error

/-!
# The worker pool

Workers take jobs from one queue without bound.  Every operation and every turn of a worker holds
the pool's lock from its beginning to its end, so a run of the pool is a sequence of such sections,
each of them one `Action`, in any order.

* A submitted job gets a new worker while there are fewer than `core`, even if others are idle; else
  it waits for a worker to look for it.
* An idle worker parks.  It leaves when its keep-alive time runs out, and a worker that finds more
  workers than `max` leaves the next time it looks for a job.
* `Pool.step`: one section, with what happened in it.
* `Pool.run`: a sequence of sections.
-/

namespace ReviewStream

/-! ## Workers -/

/-- What a worker is at. -/
inductive Phase (J : Type) where
  /-- About to take the lock and look for a job. -/
  | waking
  /-- Waits to be woken. -/
  | parked
  /-- Parked until its keep-alive time ran out; about to take the lock. -/
  | expired
  /-- Runs a job. -/
  | running (job : J)
deriving DecidableEq

/-- A worker of a pool. -/
structure Worker (J : Type) where
  id : Nat
  phase : Phase J
deriving DecidableEq

namespace Worker

variable {J : Type}

/-- Whether the worker runs a job. -/
def isRunning (w : Worker J) : Bool :=
  match w.phase with
  | .running _ => true
  | _ => false

/-- Whether the worker waits to be woken. -/
def isParked (w : Worker J) : Bool :=
  match w.phase with
  | .parked => true
  | _ => false

/-- Whether the worker is about to look for a job. -/
def isLooking (w : Worker J) : Bool :=
  match w.phase with
  | .waking | .expired => true
  | _ => false

/-- Wakes the worker if it is parked. -/
def wake (w : Worker J) : Worker J :=
  if w.isParked then { w with phase := .waking } else w

/-- Wakes the one that has been parked longest: the first one in the list. -/
def wakeFirst : List (Worker J) → List (Worker J)
  | [] => []
  | w :: ws => if w.isParked then w.wake :: ws else w :: wakeFirst ws

end Worker

/-! ## The pool -/

/-- How far the end of a pool has come. -/
inductive Stage where
  /-- Jobs are accepted. -/
  | running
  /-- No job is accepted; the queue is still worked off. -/
  | shutdown
  /-- No job is accepted or started. -/
  | stopped
deriving DecidableEq

/-- A pool of workers. -/
structure Pool (J : Type) where
  /-- The jobs that no worker has taken, the oldest one first. -/
  queue : List J
  core : Nat
  max : Nat
  /-- Milliseconds that an idle worker stays. -/
  keepAlive : Nat
  /-- The workers; of the parked ones, the longest parked one comes first. -/
  workers : List (Worker J)
  /-- The highest number of workers so far. -/
  largest : Nat
  nextId : Nat
  stage : Stage

namespace Pool

variable {J : Type}

/-- How many workers run a job. -/
def active (p : Pool J) : Nat := p.workers.countP (·.isRunning)

/-- How many workers there are. -/
def size (p : Pool J) : Nat := p.workers.length

/-- Whether the pool takes no more jobs. -/
def isShutdown (p : Pool J) : Bool := p.stage != .running

/-- Whether the pool is shut down and its last worker has left. -/
def isTerminated (p : Pool J) : Bool := p.isShutdown && p.workers.isEmpty

/-- Starts a worker, which will look for a job. -/
def spawn (p : Pool J) : Pool J :=
  { p with
    workers := p.workers ++ [⟨p.nextId, .waking⟩]
    nextId := p.nextId + 1
    largest := Nat.max p.largest (p.workers.length + 1) }

/-- Starts up to `n` workers while there are fewer than `core`. -/
def spawnUpTo : Nat → Pool J → Pool J
  | 0, p => p
  | n + 1, p => if p.size < p.core then spawnUpTo n p.spawn else p

/-- Wakes every parked worker. -/
def wakeAll (p : Pool J) : Pool J := { p with workers := p.workers.map (·.wake) }

/-- Wakes the worker that has been parked longest. -/
def wakeOne (p : Pool J) : Pool J := { p with workers := Worker.wakeFirst p.workers }

/-- A running pool whose bounds are both `size`, but at least one, with one worker. -/
def ofSize (size keepAlive : Nat) : Pool J :=
  spawn
    { queue := [], core := Nat.max size 1, max := Nat.max size 1, keepAlive, workers := [],
      largest := 0, nextId := 1, stage := .running }

/-! ## What callers do -/

/-- Queues a job and starts or wakes a worker for it. -/
def submit (p : Pool J) (job : J) : Except PoolError (Pool J) :=
  if p.isShutdown then .error .rejected
  else
    let p := { p with queue := p.queue ++ [job] }
    .ok (if p.size < p.core || p.size = 0 then p.spawn else p.wakeOne)

/-- Sets the number of workers up to which a new job gets a new worker.  Growth starts workers for
the jobs that are waiting. -/
def setCore (p : Pool J) (core : Nat) : Except PoolError (Pool J) :=
  if p.max < core then .error (.invalidBounds core p.max)
  else
    let grown := { p with core }
    .ok <|
      if p.core < core && !p.isShutdown then
        spawnUpTo (Nat.min (core - p.core) p.queue.length) grown
      else if core < p.core then grown.wakeAll
      else grown

/-- Sets the number of workers above which they leave. -/
def setMax (p : Pool J) (max : Nat) : Except PoolError (Pool J) :=
  if max = 0 || max < p.core then .error (.invalidBounds p.core max)
  else
    let p := { p with max }
    .ok (if max < p.size then p.wakeAll else p)

/-- Sets how long an idle worker stays; a shorter time lets the parked ones count anew. -/
def setKeepAlive (p : Pool J) (keepAlive : Nat) : Pool J :=
  let changed := { p with keepAlive }
  if keepAlive < p.keepAlive then changed.wakeAll else changed

/-- Takes no more jobs; the queue is still worked off. -/
def shutdown (p : Pool J) : Pool J :=
  wakeAll { p with stage := if p.stage = .running then .shutdown else p.stage }

/-- Takes and starts no more jobs and gives back the queue. -/
def shutdownNow (p : Pool J) : List J × Pool J :=
  (p.queue, wakeAll { p with stage := .stopped, queue := [] })

/-! ## What workers do -/

/-- What a worker that looks for a job finds. -/
inductive Finding (J : Type) where
  | leave
  | start (job : J) (rest : List J)
  | park
deriving DecidableEq

/-- What there is to do for a worker that holds the lock. -/
def finding (p : Pool J) : Finding J :=
  if p.stage = .stopped then .leave
  else if p.max < p.size then .leave
  else match p.queue with
    | job :: rest => .start job rest
    | [] => if p.stage = .shutdown then .leave else .park

/-- The worker with this number. -/
def worker? (p : Pool J) (id : Nat) : Option (Worker J) := p.workers.find? (·.id = id)

/-- Takes a worker off. -/
def dismiss (p : Pool J) (id : Nat) : Pool J :=
  { p with workers := p.workers.filter (·.id ≠ id) }

/-- Puts a worker into another phase. -/
def setPhase (p : Pool J) (id : Nat) (phase : Phase J) : Pool J :=
  { p with workers := p.workers.map fun w => if w.id = id then { w with phase } else w }

/-- Parks a worker behind all others. -/
def park (p : Pool J) (id : Nat) : Pool J :=
  { p with workers := (p.dismiss id).workers ++ [⟨id, .parked⟩] }

/-! ## Sections -/

/-- How a job ends. -/
inductive Ending where
  | returned
  /-- The job crashed; its worker goes on. -/
  | crashed
deriving DecidableEq

/-- A section under the pool's lock, or a parked worker's time running out. -/
inductive Action (J : Type) where
  | submit (job : J)
  | setCore (core : Nat)
  | setMax (max : Nat)
  | setKeepAlive (keepAlive : Nat)
  | shutdown
  | shutdownNow
  /-- The keep-alive time of a parked worker runs out. -/
  | expire (worker : Nat)
  /-- A worker that was started, woken or not woken in time looks for a job. -/
  | look (worker : Nat)
  /-- A worker's job is over; the worker looks for another one. -/
  | finish (worker : Nat) (ending : Ending)
deriving DecidableEq

/-- What happens in a section. -/
inductive Occurrence (J : Type) where
  | accepted (job : J)
  | refused (e : PoolError)
  | started (worker : Nat) (job : J)
  | finished (worker : Nat) (job : J) (ending : Ending)
  | dropped (jobs : List J)
deriving DecidableEq

/-- A worker that holds the lock does what it finds. -/
def advance (p : Pool J) (id : Nat) : Pool J × List (Occurrence J) :=
  match p.finding with
  | .leave => (p.dismiss id, [])
  | .start job rest => ({ p with queue := rest }.setPhase id (.running job), [.started id job])
  | .park => (p.park id, [])

/-- The outcome of an operation that may be refused; then nothing changes. -/
def settled (p : Pool J) (accepted : List (Occurrence J)) :
    Except PoolError (Pool J) → Pool J × List (Occurrence J)
  | .ok next => (next, accepted)
  | .error e => (p, [.refused e])

/-- One section, and what happened in it; none if no such section can take place. -/
def step (p : Pool J) : Action J → Option (Pool J × List (Occurrence J))
  | .submit job => some (p.settled [.accepted job] (p.submit job))
  | .setCore core => some (p.settled [] (p.setCore core))
  | .setMax max => some (p.settled [] (p.setMax max))
  | .setKeepAlive keepAlive => some (p.setKeepAlive keepAlive, [])
  | .shutdown => some (p.shutdown, [])
  | .shutdownNow => let (jobs, p) := p.shutdownNow; some (p, [.dropped jobs])
  | .expire id =>
    match p.worker? id with
    | some ⟨_, .parked⟩ => some (p.setPhase id .expired, [])
    | _ => none
  | .look id =>
    match p.worker? id with
    | some ⟨_, .waking⟩ => some (p.advance id)
    | some ⟨_, .expired⟩ =>
      if p.queue.isEmpty && !p.isShutdown then some (p.dismiss id, []) else some (p.advance id)
    | _ => none
  | .finish id ending =>
    match p.worker? id with
    | some ⟨_, .running job⟩ =>
      let (p, happened) := (p.setPhase id .waking).advance id
      some (p, .finished id job ending :: happened)
    | _ => none

/-- A sequence of sections, and what happened in them. -/
def run (p : Pool J) : List (Action J) → Option (Pool J × List (Occurrence J))
  | [] => some (p, [])
  | a :: rest => do
    let (q, happened) ← p.step a
    let (r, later) ← q.run rest
    return (r, happened ++ later)

/-! ## Resizing -/

/-- The sections by which a resize to `size` follows the moment at which it read `core`: growth
raises the upper bound first, and shrinking lowers it last. -/
def resizePlan (core size : Nat) : List (Action J) :=
  if core < size then [.setMax size, .setCore size]
  else if size < core then [.setCore size, .setMax size]
  else []

/-- Carries out sections up to the first one that is refused. -/
def carryOut (p : Pool J) : List (Action J) → Except PoolError Unit × Pool J
  | [] => (.ok (), p)
  | a :: rest =>
    match p.step a with
    | some (_, [.refused e]) => (.error e, p)
    | some (q, _) => q.carryOut rest
    | none => p.carryOut rest

/-- Gives both bounds one size, but at least one. -/
def resize (p : Pool J) (size : Nat) : Except PoolError Unit × Pool J :=
  p.carryOut (resizePlan p.core (Nat.max size 1))

end Pool

end ReviewStream
