/-!
# The state of a connection

* `ConnectionState.enter`: every state may be entered from every other one, but shutting down is
  never left.
-/

namespace ReviewStream

/-- Where a connection stands. -/
inductive ConnectionState where
  | disconnected
  | connecting
  | connected
  /-- The end of every connection. -/
  | shuttingDown
deriving DecidableEq, Inhabited

namespace ConnectionState

/-- The wording of a state. -/
def text : ConnectionState → String
  | .disconnected => "disconnected"
  | .connecting => "connecting"
  | .connected => "connected"
  | .shuttingDown => "shutting down"

/-- The state with this wording. -/
def ofText? (s : String) : Option ConnectionState :=
  [disconnected, connecting, connected, shuttingDown].find? (·.text = s)

/-- Whether another state may follow. -/
def mayChange (s : ConnectionState) : Bool := s != .shuttingDown

/-- Enters a state unless shutting down has begun. -/
def enter (s next : ConnectionState) : ConnectionState :=
  if s.mayChange then next else s

/-- Shutting down is final. -/
@[simp] theorem enter_shuttingDown (next : ConnectionState) :
    shuttingDown.enter next = shuttingDown := rfl

/-- A state that may change is left for the one that is entered. -/
theorem enter_of_mayChange {s : ConnectionState} (next : ConnectionState) (h : s.mayChange) :
    s.enter next = next := if_pos h

end ConnectionState

end ReviewStream
