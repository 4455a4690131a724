import ReviewStream.Transport.Basic

/-!
# Transports whose calls are taken down

Whatever a transport does, its calls can be taken down together with what came of them.  A session
is known in the log by the number of sessions that were opened before it, so that no two sessions
are mistaken for each other.

* `TransportDeed`: a call with its outcome.
* `Logbook`: the world beyond the transport, with the calls so far.
* `Transport.recorded`: the transport that takes down its calls.
-/

namespace ReviewStream

/-- A call to a transport with what came of it. -/
inductive TransportDeed where
  | opened (config : ConnectionConfig) (session : Nat)
  | refused (config : ConnectionConfig) (e : TransportError)
  | executed (session : Nat) (command : String) (answer : Except TransportError String)
  | closed (session : Nat)

namespace TransportDeed

/-- The session that the call was about. -/
def session? : TransportDeed → Option Nat
  | opened _ session | executed session _ _ | closed session => some session
  | refused .. => none

/-- The session that the call opened. -/
def opened? : TransportDeed → Option Nat
  | opened _ session => some session
  | refused .. | executed .. | closed _ => none

/-- Whether the call was a connect. -/
def isConnect : TransportDeed → Bool
  | opened .. | refused .. => true
  | executed .. | closed _ => false

/-- Whether the call disconnected a session. -/
def closes (session : Nat) : TransportDeed → Bool
  | closed other => other == session
  | opened .. | refused .. | executed .. => false

end TransportDeed

/-- The state of the world beyond a transport, and the calls so far. -/
structure Logbook (σ : Type) where
  world : σ
  /-- The transport's own numbers of the sessions, in the order in which they were opened. -/
  handles : List Nat
  /-- The calls, the latest one last. -/
  deeds : List TransportDeed

namespace Logbook

variable {σ : Type}

/-- No calls yet. -/
def ofWorld (world : σ) : Logbook σ := ⟨world, [], []⟩

/-- How many sessions were opened. -/
def sessions (s : Logbook σ) : Nat := s.handles.length

/-- The transport's own number of a session. -/
def handle (s : Logbook σ) (session : Nat) : Nat := s.handles.getD session session

/-- Takes down a call that leaves the world in another state. -/
def note (s : Logbook σ) (world : σ) (deed : TransportDeed) : Logbook σ :=
  { s with world, deeds := s.deeds ++ [deed] }

/-- A session that was opened and not disconnected. -/
def IsOpen (s : Logbook σ) (session : Nat) : Prop :=
  (∃ config, .opened config session ∈ s.deeds) ∧ .closed session ∉ s.deeds

end Logbook

/-- The transport that does the same and takes down its calls. -/
def Transport.recorded {σ : Type} (t : Transport σ) : Transport (Logbook σ) where
  connect config s :=
    match t.connect config s.world with
    | (.ok handle, world) =>
      (.ok s.sessions,
        { s.note world (.opened config s.sessions) with handles := s.handles ++ [handle] })
    | (.error e, world) => (.error e, s.note world (.refused config e))
  execute session command s :=
    let (answer, world) := t.execute (s.handle session) command s.world
    (answer, s.note world (.executed session command answer))
  isConnected session s := t.isConnected (s.handle session) s.world
  disconnect session s := s.note (t.disconnect (s.handle session) s.world) (.closed session)

end ReviewStream
