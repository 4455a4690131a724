import ReviewStream.Dispatch.Closing

/-!
# Shutdowns by the clock

A call that shuts a dispatcher down and waits reckons a deadline before each of its two waits: a
grace period from then on.  The clock counts in signed words of 64 bits, and a call crashes over a
deadline that it cannot express.

* `Deadline`: how far a call has come with its deadline.
* `Dispatcher.Clocked.step`: a step of a dispatcher and of those who shut it down, a call that
  reckons, or time that goes by.

Calls and workers may be as slow as they like, so a deadline is passed at some time after its
moment, and never before.
-/

namespace ReviewStream

/-- How far a call has come with its deadline. -/
inductive Deadline where
  /-- It has none yet. -/
  | unset
  /-- About to be reckoned. -/
  | due
  /-- So many seconds of the clock. -/
  | set (moment : Nat)
  /-- It cannot be expressed, and the call has crashed. -/
  | crashed
deriving DecidableEq

/-- What reckoning comes to. -/
def Deadline.ofMoment? : Option Nat → Deadline
  | some moment => .set moment
  | none => .crashed

/-- Whether a call may have its next turn: one that has to reckon has to do that before, and one
that has crashed has no turn any more. -/
def Deadline.letsGo : Deadline → Bool
  | .unset | .set _ => true
  | .due | .crashed => false

/-- Whether the moment of a deadline has come. -/
def Deadline.hasCome (now : Nat) : Deadline → Bool
  | .set moment => moment ≤ now
  | .unset | .due | .crashed => false

/-- Whether the next turn of a call is the last one before a wait. -/
def ShutdownCall.isAboutToWait : ShutdownCall → Bool
  | .closing waits => waits
  | .discarding => true
  | .draining _ | .lingering _ | .left _ => false

namespace Dispatcher

/-- A dispatcher, the calls that shut it down and a clock that counts seconds. -/
structure Clocked where
  attended : Attended
  now : Nat
  /-- The deadline of each call. -/
  deadlines : Nat → Deadline

namespace Clocked

/-- What can happen. -/
inductive Act where
  /-- Something that does not depend on the clock, or a deadline that is passed. -/
  | attend (act : Attended.Act)
  /-- A call reckons its deadline. -/
  | reckon (call : Nat)
  | elapse (secs : Nat)

/-- A dispatcher that nobody shuts down yet. -/
def ofDispatcher (d : Dispatcher) (now : Nat) : Clocked := ⟨⟨d, []⟩, now, fun _ => .unset⟩

/-- Sets the deadline of a call. -/
def setDeadline (s : Clocked) (call : Nat) (deadline : Deadline) : Clocked :=
  { s with deadlines := fun i => if i = call then deadline else s.deadlines i }

/-- Whether the deadlines let something happen. -/
def allows (s : Clocked) : Attended.Act → Bool
  | .goOn call => (s.deadlines call).letsGo
  | .expire call => (s.deadlines call).hasCome s.now
  | .work _ | .call _ | .change .. | .shutdown _ => true

/-- Notes that a call has to reckon before it waits. -/
def noteDue (s : Clocked) : Attended.Act → Clocked
  | .goOn call =>
    if (s.attended.calls[call]?).any (·.isAboutToWait) then s.setDeadline call .due else s
  | _ => s

/-- One step, with what happened to items and the calls of listeners in it; none if no such step can
take place. -/
def step (population : Registry.Population) (s : Clocked) :
    Act → Option (Clocked × List (Pool.Occurrence WorkItem) × List Call)
  | .attend act =>
    if s.allows act then
      (s.attended.step population act).map fun (attended, happened, made) =>
        ({ s.noteDue act with attended }, happened, made)
    else none
  | .reckon call =>
    if s.deadlines call = .due then
      let deadline := Deadline.ofMoment? (deadline? s.now s.attended.dispatcher.graceSecs)
      some (s.setDeadline call deadline, [], [])
    else none
  | .elapse secs => some ({ s with now := s.now + secs }, [], [])

/-- A sequence of steps, with what happened to items and the calls of listeners in them. -/
def run (population : Registry.Population) (s : Clocked) :
    List Act → Option (Clocked × List (Pool.Occurrence WorkItem) × List Call)
  | [] => some (s, [], [])
  | act :: rest => do
    let (next, happened, made) ← s.step population act
    let (last, later, after) ← next.run population rest
    return (last, happened ++ later, made ++ after)

end Clocked

end Dispatcher

end ReviewStream
