import ReviewStream.Connection.Task
import ReviewStream.Transport.Script
import ReviewStream.Watchdog.Basic

/-!
# Rehearsing a connection

A rehearsal runs a connection against a script on a clock: each thing that the task waits for comes
when the script says, pauses take their time, and the watchdog counts on the same clock.

* `Rehearsal.runUntil`: lets everything happen that is due up to a moment.
* `Rehearsal.start`, `shutdown`, `tell`: what callers do to the connection.

Moments are counted in milliseconds.
-/

namespace ReviewStream

/-- The time between a failed connect and the next one. -/
def connectPause : Nat := 2000

/-- The time between two reads. -/
def readPause : Nat := 100

/-- What comes next for the task. -/
inductive Coming where
  | move (m : Connection.Move)
  /-- A wait in the stream is over. -/
  | waited

/-- A connection, the script that it runs against and the clock of both. -/
structure Rehearsal where
  connection : Connection
  script : Script
  /-- What is left of the stream that is open. -/
  steps : List StreamStep
  /-- What comes next for the task, and when; nothing if it waits in vain. -/
  coming : Option (Nat × Coming)
  watchdog : Option Watchdog
  deeds : List (Nat × Deed)

namespace Rehearsal

/-- A rehearsal of a connection that is not started. -/
def ofConnection (connection : Connection) (script : Script) : Rehearsal :=
  { connection, script, steps := [], coming := none, watchdog := none, deeds := [] }

/-- The moment that has been reached. -/
def now (r : Rehearsal) : Nat := r.script.now

/-! ## What comes next -/

/-- The next thing in the open stream, of which a read takes no more than there is room for. -/
def nextStep (now room : Nat) : List StreamStep → Option (Nat × Coming) × List StreamStep
  | [] => (none, [])
  | .wait delay :: rest => (some (now + delay, .waited), rest)
  | .data octets :: rest =>
    if octets.isEmpty then nextStep now room rest
    else
      let left := octets.drop room
      (some (now, .move (.received (octets.take room))),
        if left.isEmpty then rest else .data left :: rest)
  | .die :: rest => (some (now, .waited), .die :: rest)
  | .finish :: rest => (some (now, .move .finished), rest)
  | .fault :: rest => (some (now, .move .broken), rest)

/-- What a delayed answer comes to. -/
def answered (now : Nat) (a : Delayed α) (ok : α → Connection.Move)
    (error : TransportError → Connection.Move) : Nat × Coming :=
  (now + a.delay, .move (match a.answer with
    | .ok x => ok x
    | .error e => error e))

/-- Finds out what comes next for the task. -/
def plan (r : Rehearsal) : Rehearsal :=
  let now := r.now
  let after (delay : Nat) (m : Connection.Move) := some (now + delay, Coming.move m)
  match r.connection.task with
  | .absent | .ended => { r with coming := none }
  | .spawned => { r with coming := after 0 .run }
  | .connecting =>
    let (a, script) := r.script.nextAttempt r.connection.config
    let script := match a.answer with
      | .ok session => (script.handOut session).2
      | .error _ => script
    { r with script, coming := some (answered now a (fun _ => .connected) .refused) }
  | .querying session =>
    let (a, script) := r.script.nextOutput session
    { r with script, coming := some (answered now a .answered .unanswered) }
  | .opening session =>
    let (a, script) := r.script.nextStream session
    { r with script, steps := a.answer.toOption.getD [],
             coming := some (answered now a (fun _ => .opened) .unopened) }
  | .reading s =>
    let (coming, steps) := nextStep now s.buffer.room r.steps
    { r with coming, steps }
  | .pausing _ => { r with coming := after readPause .slept }
  | .retrying | .backingOff _ => { r with coming := after connectPause .slept }
  | .rejecting _ | .releasing .. | .discarding _ | .closing _ =>
    { r with coming := after 0 .released }

/-! ## Doing it -/

/-- Takes down what the connection does, and lets the watchdog follow. -/
def note (r : Rehearsal) (d : Deed) : Rehearsal :=
  let watchdog := match d with
    | .watch timeoutSecs =>
      some (.start (timeoutSecs.toNat * 1000) r.connection.config.watchdogWindows r.now)
    | .signal => r.watchdog.map (·.receive r.now .signal)
    | .unwatch => none
    | _ => r.watchdog
  { r with watchdog, deeds := r.deeds ++ [(r.now, d)] }

/-- Something happens to the connection that the task does not wait for. -/
def tell (r : Rehearsal) (m : Connection.Move) : Rehearsal :=
  match r.connection.step m with
  | some (connection, deeds) => deeds.foldl note { r with connection }
  | none => r

/-- That comes which the task waits for. -/
def deliver (r : Rehearsal) (m : Connection.Move) : Rehearsal :=
  (r.tell m).plan

/-- What the task waits for, or a wait in its stream, is over. -/
def arrive (r : Rehearsal) : Coming → Rehearsal
  | .move m => r.deliver m
  | .waited =>
    match r.steps, r.connection.task with
    | .die :: steps, .reading s => ({ r with steps }.tell (.lose s.session)).plan
    | _, _ => r.plan

/-- Sets the clock. -/
def setNow (r : Rehearsal) (now : Nat) : Rehearsal :=
  { r with script := { r.script with now } }

/-- The watchdog expires. -/
def expire (localTime : Nat → LocalTime) (r : Rehearsal) (w : Watchdog) : Rehearsal :=
  if w.alarms (localTime r.now) then { r with watchdog := some (w.restart r.now) }.tell .alarm
  else { r with watchdog := some (w.restart r.now) }

/-- The next thing that is due up to a moment, done at its time; none if there is nothing. -/
def next? (localTime : Nat → LocalTime) (moment : Nat) (r : Rehearsal) : Option Rehearsal :=
  if r.connection.mustStop then some (r.deliver .run)
  else
    let expiry := r.watchdog.bind fun w => w.nextExpiry?.map fun t => (t, w)
    match r.coming, expiry with
    | some (t, x), some (u, w) =>
      if t ≤ u then if t ≤ moment then some ((r.setNow t).arrive x) else none
      else if u ≤ moment then some ((r.setNow u).expire localTime w) else none
    | some (t, x), none => if t ≤ moment then some ((r.setNow t).arrive x) else none
    | none, some (u, w) => if u ≤ moment then some ((r.setNow u).expire localTime w) else none
    | none, none => none

/-- Lets at most `fuel` things happen that are due up to a moment. -/
def runWithin (localTime : Nat → LocalTime) (moment : Nat) : Nat → Rehearsal → Rehearsal
  | 0, r => r
  | fuel + 1, r =>
    match r.next? localTime moment with
    | some r => runWithin localTime moment fuel r
    | none => r

/-- The sizes of a list's members, added up. -/
def totalSize (size : α → Nat) (l : List α) : Nat :=
  l.foldr (fun a n => size a + n) 0

/-- The octets of a step of a stream, and one for the step. -/
def stepSize : StreamStep → Nat
  | .data octets => octets.length + 1
  | _ => 1

/-- The length of what a session has in store. -/
def sessionSize (s : ScriptedSession) : Nat :=
  s.outputs.length +
    totalSize (fun a => 1 + totalSize stepSize (a.answer.toOption.getD [])) s.streams

/-- The length of what is left of the script. -/
def scriptSize (r : Rehearsal) : Nat :=
  totalSize (fun a => 1 + (a.answer.toOption.map sessionSize).getD 0) r.script.attempts +
    totalSize sessionSize r.script.sessions + totalSize stepSize r.steps

/-- Lets everything happen that is due up to a moment.  Whatever takes no time uses up a part of the
script, so there is a bound to it. -/
def runUntil (localTime : Nat → LocalTime) (moment : Nat) (r : Rehearsal) : Rehearsal :=
  (runWithin localTime moment (8 * (r.scriptSize + (moment - r.now) + 8)) r).setNow moment

/-! ## Callers -/

/-- Starts the connection; its task runs only when the clock does. -/
def start (r : Rehearsal) : Except ConnectionError Unit × Rehearsal :=
  match r.connection.start? with
  | .ok _ => (.ok (), r.deliver .start)
  | .error e => (.error e, r)

/-- Shuts the connection down.  Who joins waits for the task, unless an earlier caller has already
taken it over. -/
def shutdown (localTime : Nat → LocalTime) (join : Bool) (r : Rehearsal) : Rehearsal :=
  let waits := join && r.connection.joinable
  let r := r.tell .shutdown
  if waits then r.runUntil localTime r.now else r

/-- What the connection has done so far, and the rehearsal without it. -/
def takeDeeds (r : Rehearsal) : List (Nat × Deed) × Rehearsal :=
  (r.deeds, { r with deeds := [] })

end Rehearsal

end ReviewStream
