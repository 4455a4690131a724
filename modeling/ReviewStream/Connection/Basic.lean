import ReviewStream.Command.Query
import ReviewStream.Connection.State
import ReviewStream.Event.Basic
import ReviewStream.LineBuffer.Basic
import ReviewStream.Listener.Set
import ReviewStream.Transport.Basic

/-!
# The stream connection

A connection keeps one event stream of a server open.  Its task connects, asks for the server's
version, opens the stream, posts every complete line that it reads, and begins anew when the stream
ends.  Callers start it, shut it down and ask it to reconnect.

* `Task`: what the task waits for.
* `Connection`: the state that the task and the callers share.
* `Deed`: what the connection does to the world beyond it.
* `Connection.start?`, `requestShutdown`, `reconnect`: what callers do.
-/

namespace ReviewStream

/-! ## Parts -/

/-- What observers of a connection are told. -/
inductive ConnectionEvent where
  | established
  | down
deriving DecidableEq

/-- The wording of an event. -/
def ConnectionEvent.text : ConnectionEvent → String
  | .established => "connection established"
  | .down => "connection down"

/-- An observer of a connection; one that crashes does so whenever it is told something. -/
structure Observer where
  crashes : Bool
deriving DecidableEq

/-- What a connection does to the world beyond it. -/
inductive Deed where
  | call (c : TransportCall)
  /-- Asks for another credential in place of the current one. -/
  | refresh (current : Credential)
  | post (line : String) (provider : Provider)
  | tell (observer : String) (e : ConnectionEvent)
  /-- Starts the watchdog. -/
  | watch (timeoutSecs : UInt64)
  /-- Gives the watchdog a sign of life. -/
  | signal
  /-- Stops the watchdog. -/
  | unwatch
deriving DecidableEq

/-- An open stream: what its lines come from, the buffer that cuts them, and how many octets have
arrived. -/
structure Stream where
  session : Nat
  provider : Provider
  buffer : LineBuffer
  received : Nat

/-- What the task of a connection waits for. -/
inductive Task where
  /-- There is no task yet. -/
  | absent
  /-- The task is there and has not run yet. -/
  | spawned
  /-- The answer to a connect. -/
  | connecting
  /-- The answer to the version query. -/
  | querying (session : Nat)
  /-- The end of a session whose version query failed. -/
  | rejecting (session : Nat)
  /-- The time between a failed connect and the next one. -/
  | retrying
  /-- The answer to the opening of the stream. -/
  | opening (session : Nat)
  /-- The next octets of the stream. -/
  | reading (stream : Stream)
  /-- The time between two reads. -/
  | pausing (stream : Stream)
  /-- The end of a session whose stream is over. -/
  | releasing (session : Nat) (backOff : Bool)
  /-- The time before the next stream. -/
  | backingOff (reusable : Option Nat)
  /-- The end of a session that was kept and is no longer connected. -/
  | discarding (session : Nat)
  /-- The end of a session that was kept when the task ends. -/
  | closing (session : Nat)
  | ended

/-- A source of credentials: the answer to each request by its number and the current credential,
or none if that stays. -/
abbrev CredentialUpdater := Nat → Credential → Option Credential

/-! ## Connections -/

/-- A connection. -/
structure Connection where
  name : String
  config : ConnectionConfig
  /-- Whether lines go anywhere. -/
  hasDispatcher : Bool
  updater : Option CredentialUpdater
  /-- How many credentials have been asked for. -/
  refreshes : Nat
  state : ConnectionState
  /-- Whether a shutdown has been requested. -/
  shutdown : Bool
  /-- While there is a session for streams: whether it has been cancelled. -/
  cancelled : Option Bool
  reconnects : Nat
  version : Option String
  listeners : ListenerSet Observer
  /-- Whether a stream is established. -/
  established : Bool
  /-- Whether the watchdog of a session runs. -/
  watched : Bool
  started : Bool
  /-- Whether the task can still be waited for. -/
  joinable : Bool
  task : Task
  /-- How many sessions have been opened. -/
  sessions : Nat
  /-- The sessions that are no longer connected. -/
  lost : List Nat

/-- A connection and what it has just done. -/
abbrev Turn := Connection × List Deed

/-- A turn before which other things were done. -/
def Turn.after (deeds : List Deed) (t : Turn) : Turn := (t.1, deeds ++ t.2)

namespace Connection

/-- A connection that is not started. -/
def ofConfig (config : ConnectionConfig) (hasDispatcher : Bool)
    (updater : Option CredentialUpdater) : Connection :=
  { name := config.name, config, hasDispatcher, updater, refreshes := 0, state := .disconnected,
    shutdown := false, cancelled := none, reconnects := 0, version := none, listeners := .empty,
    established := false, watched := false, started := false, joinable := false, task := .absent,
    sessions := 0, lost := [] }

/-- Whether a session is connected. -/
def isConnected (c : Connection) (session : Nat) : Bool := !c.lost.contains session

/-- Whether the session for streams is to be given up. -/
def isInterrupted (c : Connection) : Bool := c.shutdown || c.cancelled == some true

/-- The server session that lines are said to come from. -/
def provider (c : Connection) : Provider :=
  .ofSession c.name c.config.host c.config.port c.config.frontendUrl (c.version.getD "")

/-- Stops the watchdog if it runs. -/
def stopWatchdog (c : Connection) : Turn :=
  ({ c with watched := false }, if c.watched then [.unwatch] else [])

/-- Tells every observer; one that crashes keeps nothing from the others. -/
def tellAll (c : Connection) (e : ConnectionEvent) : List Deed :=
  c.listeners.snapshot.map fun x => .tell x.id e

/-! ## What callers do -/

/-- Starts the task, which succeeds once, and never after a shutdown. -/
def start? (c : Connection) : Except ConnectionError Connection :=
  if c.shutdown then .error (.shutDown c.name)
  else if c.started then .error (.alreadyStarted c.name)
  else .ok { c with started := true, joinable := true, task := .spawned }

/-- Requests the end of the task. -/
def requestShutdown (c : Connection) : Turn :=
  let (c, deeds) := c.stopWatchdog
  ({ c with state := .shuttingDown, shutdown := true, joinable := false }, deeds)

/-- Counts a reconnect and cancels the session for streams, if there is one. -/
def reconnect (c : Connection) : Turn :=
  let (c, deeds) := { c with reconnects := c.reconnects + 1 }.stopWatchdog
  ({ c with cancelled := c.cancelled.map fun _ => true }, deeds)

/-- Adds an observer; tells whether it was none yet. -/
def addListener (c : Connection) (x : Instance Observer) : Bool × Connection :=
  let (added, listeners) := c.listeners.add x
  (added, { c with listeners })

/-- Removes an observer; tells whether it was one. -/
def removeListener (c : Connection) (id : String) : Bool × Connection :=
  let (removed, listeners) := c.listeners.remove id
  (removed, { c with listeners })

/-- Removes all observers and gives them. -/
def removeAllListeners (c : Connection) : List (Instance Observer) × Connection :=
  let (removed, listeners) := c.listeners.removeAll
  (removed, { c with listeners })

end Connection

end ReviewStream
