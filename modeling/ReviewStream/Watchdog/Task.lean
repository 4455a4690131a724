import ReviewStream.Watchdog.Window

/-!
# The task of a watchdog

The task waits for three things at the same time and looks at them in a fixed order: whether the
watchdog is stopped, whether there was a sign of life, and whether it has slept for the timeout.  A
sign of life and the end of a sleep both make it sleep anew.  Who gives a sign of life leaves a
permit; a permit is kept until the task sees it, and there is never more than one.

* `WatchdogTask.poll`: what the task does when it runs.
* `Timer.step`: a watchdog on a clock that moves only while the task rests.
* `Timer.run`: a sequence of what callers, the task and the clock do.

Moments are counted in milliseconds; the local time of a moment is given from outside.
-/

namespace ReviewStream

/-- The task of a watchdog. -/
structure WatchdogTask where
  /-- When it has slept enough; nothing while it is about to sleep. -/
  deadline : Option Nat
  /-- Whether there is a sign of life that it has not seen. -/
  permit : Bool
  /-- Whether the watchdog is stopped. -/
  cancelled : Bool
  ended : Bool
deriving DecidableEq

namespace WatchdogTask

/-- A task that has not run yet. -/
def spawned : WatchdogTask :=
  { deadline := none, permit := false, cancelled := false, ended := false }

/-- The task when somebody gives a sign of life. -/
def signal (t : WatchdogTask) : WatchdogTask := { t with permit := true }

/-- The task when the watchdog is stopped. -/
def stop (t : WatchdogTask) : WatchdogTask := { t with cancelled := true }

/-- The task after one step that it takes at a moment, and whether the timeout has expired in it. -/
def poll (timeout now : Nat) (t : WatchdogTask) : WatchdogTask × Bool :=
  if t.ended then (t, false)
  else if t.cancelled then ({ t with ended := true }, false)
  else if t.permit then ({ t with deadline := none, permit := false }, false)
  else match t.deadline with
    | none => ({ t with deadline := some (now + timeout) }, false)
    | some d => if d ≤ now then ({ t with deadline := none }, true) else (t, false)

/-- Whether a task that runs at a moment finds nothing to do. -/
def rests (now : Nat) (t : WatchdogTask) : Bool :=
  t.ended || !t.cancelled && !t.permit && t.deadline.any (now < ·)

end WatchdogTask

/-! ## On a clock -/

/-- A watchdog on a clock, and what has happened to it so far. -/
structure Timer where
  timeout : Nat
  windows : List Window
  task : WatchdogTask
  now : Nat
  /-- The moment from which expiries are still to come: the present one, and the next one when there
  has been an expiry at present. -/
  ahead : Nat
  /-- When there were signs of life. -/
  signals : List Nat
  /-- For each stop the first moment whose expiry it comes before. -/
  stops : List Nat
  /-- When the alarm was raised. -/
  alarms : List Nat
deriving DecidableEq

namespace Timer

/-- A watchdog that starts at a moment. -/
def start (timeout : Nat) (windows : List Window) (now : Nat) : Timer :=
  { timeout, windows, task := .spawned, now, ahead := now, signals := [], stops := [],
    alarms := [] }

/-- What can happen to a watchdog. -/
inductive Act where
  /-- Somebody gives a sign of life. -/
  | signal
  /-- Somebody stops the watchdog or drops it, which the callback of an alarm may do as well. -/
  | stop
  /-- The task runs. -/
  | turn
  /-- Time goes on. -/
  | tick
deriving DecidableEq

/-- What becomes of the watchdog; none if the act is not possible now.  A sign of life comes before
an expiry of the same moment, and time goes on only when the task has nothing left to do. -/
def step (localTime : Nat → LocalTime) (t : Timer) : Act → Option Timer
  | .signal =>
    if t.now < t.ahead then none
    else some { t with task := t.task.signal, signals := t.signals ++ [t.now] }
  | .stop => some { t with task := t.task.stop, stops := t.stops ++ [t.ahead] }
  | .turn =>
    let (task, expired) := t.task.poll t.timeout t.now
    some <|
      if expired then
        { t with
          task, ahead := t.now + 1,
          alarms := if isExempt t.windows (localTime t.now) then t.alarms
            else t.alarms ++ [t.now] }
      else { t with task }
  | .tick =>
    if t.task.rests t.now then some { t with now := t.now + 1, ahead := t.now + 1 } else none

/-- A sequence of acts. -/
def run (localTime : Nat → LocalTime) (t : Timer) : List Act → Option Timer
  | [] => some t
  | act :: rest => (t.step localTime act).bind fun t => run localTime t rest

end Timer

end ReviewStream
