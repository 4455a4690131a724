import ReviewStream.Listener.Registry

/-!
# Rounds that take their time

A registry is shared.  While the listeners are told of an event, their handlers and other threads
may add listeners, remove some or change whose comments are ignored, so that a round is not one
step.  It looks whether the event is suppressed, takes a snapshot of the listeners and calls them
one after the other.  A handler that fails or crashes is noted in the log and the round goes on.

* `Registry.after`: the registry that a history of changes leads to.
* `Round`: the event that the listeners are told of, how far the round has come and which calls it
  has made.
* `Round.step`, `Round.run`: what can happen in the course of a round.
-/

namespace ReviewStream

open Registry (Population)

namespace Registry

/-- What can be done to a registry. -/
inductive Change where
  | registration (c : Registration)
  | ignoredEmail (server address : String)
deriving DecidableEq

/-- Makes one change. -/
def change (population : Population) (r : Registry) : Change → Registry
  | .registration c => r.apply population c
  | .ignoredEmail server address => r.setIgnoredEmail server address

/-- What becomes of the empty registry, the earliest change first. -/
def after (population : Population) (history : List Change) : Registry :=
  history.foldl (change population) empty

end Registry

/-! ## Rounds -/

/-- How far a round has come. -/
inductive Round.Stage where
  /-- About to look whether the event is suppressed. -/
  | arrived
  /-- About to take a snapshot of the listeners. -/
  | admitted
  /-- About to turn to the next listener. -/
  | between (left : List (Instance Listener))
  /-- A handler is running, and these listeners come after it. -/
  | within (left : List (Instance Listener))
  | finished

/-- One event on its way to the listeners of a registry. -/
structure Round where
  registry : Registry
  event : Event
  stage : Round.Stage
  /-- The handlers that have been entered, in order. -/
  made : List Call

namespace Round

/-- What can happen while a round is under way. -/
inductive Act where
  /-- The round looks whether the event is suppressed. -/
  | check
  /-- The round takes its snapshot. -/
  | fetch
  /-- The round turns to the next listener, if there is one. -/
  | next
  /-- The handler that is running comes to its end. -/
  | ends (outcome : Outcome)
  /-- A handler or another thread changes the registry. -/
  | change (c : Registry.Change)
deriving DecidableEq

/-- The round of an event that has just arrived. -/
def ofEvent (r : Registry) (e : Event) : Round := ⟨r, e, .arrived, []⟩

/-- The call by which a listener is told of an event. -/
def callOf (e : Event) (l : Instance Listener) : Call := ⟨l.id, l.value.handlerFor e, e⟩

/-- One step; none if it cannot take place. -/
def step (population : Population) (s : Round) : Act → Option Round
  | .check =>
    match s.stage with
    | .arrived =>
      some { s with stage := if s.registry.isSuppressed s.event then .finished else .admitted }
    | _ => none
  | .fetch =>
    match s.stage with
    | .admitted => some { s with stage := .between s.registry.listeners.snapshot }
    | _ => none
  | .next =>
    match s.stage with
    | .between (l :: left) =>
      some { s with stage := .within left, made := s.made ++ [callOf s.event l] }
    | .between [] => some { s with stage := .finished }
    | _ => none
  | .ends _ =>
    -- Every call is guarded by itself, so no outcome reaches the calls that come after it.
    match s.stage with
    | .within left => some { s with stage := .between left }
    | _ => none
  | .change c => some { s with registry := s.registry.change population c }

/-- A sequence of steps. -/
def run (population : Population) (s : Round) : List Act → Option Round
  | [] => some s
  | act :: rest => (s.step population act).bind fun next => next.run population rest

end Round

end ReviewStream
