import ReviewStream.Watchdog.Window

/-!
# The watchdog of a stream

A watchdog counts the time since the last sign of life.  Each time a full timeout has gone by in
silence it expires and counts anew; an expiry raises the alarm unless a window exempts the moment.

* `Watchdog.runBefore`: the alarms up to a moment, that moment not included.
* `Watchdog.alarmsBefore`: the alarms of a watchdog that gets signs of life or is stopped meanwhile.
  A sign of life at the moment of an expiry counts first.

Moments are counted in milliseconds; the local time of a moment is given from outside.
-/

namespace ReviewStream

/-- A watchdog. -/
structure Watchdog where
  /-- Milliseconds of silence after which it expires. -/
  timeout : Nat
  windows : List Window
  /-- The moment from which silence is counted. -/
  since : Nat
  running : Bool

namespace Watchdog

/-- A watchdog that starts at a moment. -/
def start (timeout : Nat) (windows : List Window) (now : Nat) : Watchdog :=
  { timeout, windows, since := now, running := true }

/-- The next moment at which the watchdog expires, unless there is a sign of life before. -/
def nextExpiry? (w : Watchdog) : Option Nat :=
  if w.running && w.timeout != 0 then some (w.since + w.timeout) else none

/-- Whether an expiry at this local time raises the alarm. -/
def alarms (w : Watchdog) (t : LocalTime) : Bool := !isExempt w.windows t

/-- Silence is counted anew from this moment. -/
def restart (w : Watchdog) (now : Nat) : Watchdog := { w with since := now }

/-- Stops the watchdog for good. -/
def stop (w : Watchdog) : Watchdog := { w with running := false }

/-- Lets at most `fuel` expiries happen before a moment and gives the alarms among them. -/
def runWithin (localTime : Nat → LocalTime) (moment : Nat) :
    Nat → Watchdog → List Nat × Watchdog
  | 0, w => ([], w)
  | fuel + 1, w =>
    match w.nextExpiry? with
    | none => ([], w)
    | some t =>
      if t < moment then
        let (later, w') := runWithin localTime moment fuel (w.restart t)
        (if w.alarms (localTime t) then t :: later else later, w')
      else ([], w)

/-- The alarms before a moment.  Every expiry takes the count at least one millisecond further, so
there are fewer of them than milliseconds. -/
def runBefore (localTime : Nat → LocalTime) (moment : Nat) (w : Watchdog) : List Nat × Watchdog :=
  runWithin localTime moment (moment - w.since) w

/-- What callers do to a watchdog. -/
inductive Input where
  | signal
  | stop
deriving DecidableEq

/-- A watchdog after an input at a moment that all earlier expiries precede. -/
def receive (w : Watchdog) (now : Nat) : Input → Watchdog
  | .signal => if w.running then w.restart now else w
  | .stop => w.stop

/-- The alarms of a watchdog before a moment that gets inputs at given moments, in order. -/
def alarmsBefore (localTime : Nat → LocalTime) (moment : Nat) (w : Watchdog) :
    List (Nat × Input) → List Nat
  | [] => (w.runBefore localTime moment).1
  | (t, x) :: rest =>
    let (before, w) := w.runBefore localTime t
    before ++ alarmsBefore localTime moment (w.receive t x) rest

end Watchdog

end ReviewStream
