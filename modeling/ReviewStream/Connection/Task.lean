import ReviewStream.Connection.Basic

/-!
# The task of a connection

The task runs from one wait to the next without being disturbed, so a run of a connection is a
sequence of moves: what callers, the watchdog and the server do, and the task's own turns.

* `Connection.step`: one move, with what the connection does in it.
* `Connection.run`: a sequence of moves.

A session is kept for another stream only if its stream ended by itself while the session was still
connected and nobody had cancelled it.
-/

namespace ReviewStream

/-- The command whose output is the event stream. -/
def streamCommand : String := "gerrit stream-events"

/-- The command that asks for the server's version. -/
def versionCommand : String := "gerrit version"

/-- How a stream comes to its end. -/
inductive StreamEnd where
  | finished (received : Nat)
  | interrupted
  | failed
deriving DecidableEq

namespace Connection

/-! ## Stretches between two waits -/

/-- The task comes to its end; a session that was kept is disconnected first. -/
def finish (c : Connection) : Option Nat → Turn
  | some session => ({ c with task := .closing session }, [.call (.disconnect session)])
  | none => ({ c with task := .ended }, [])

/-- Asks for another credential, if there is anyone to ask. -/
def refresh (c : Connection) : Turn :=
  match c.updater with
  | none => (c, [])
  | some answer =>
    let current := c.config.credential
    let config := match answer c.refreshes current with
      | some credential => c.config.withCredential credential
      | none => c.config
    ({ c with config, refreshes := c.refreshes + 1 }, [.refresh current])

/-- Begins a connect. -/
def connect (c : Connection) : Turn :=
  if c.shutdown then c.finish none
  else
    let (c, deeds) := { c with state := c.state.enter .connecting }.refresh
    ({ c with task := .connecting }, deeds ++ [.call (.connect c.config)])

/-- Begins to open the stream on a session, under a watchdog if the settings ask for one. -/
def openStream (c : Connection) (session : Nat) : Turn :=
  let timeout := c.config.watchdogTimeout?
  ({ c with task := .opening session, cancelled := some false, watched := timeout.isSome },
    (timeout.map Deed.watch).toList ++ [.call (.openStream session streamCommand)])

/-- Goes on to the next stream, on the session that was kept or on a new one. -/
def proceed (c : Connection) (reusable : Option Nat) : Turn :=
  if c.shutdown then c.finish reusable
  else match reusable with
    | none => c.connect
    | some session =>
      if c.isConnected session then
        if c.state.mayChange then { c with state := .connecting }.openStream session
        else c.finish (some session)
      else ({ c with task := .discarding session }, [.call (.disconnect session)])

/-- Reports the end of a stream and goes on, after a pause if the stream was never established or
was asked to back off. -/
def afterStream (c : Connection) (reusable : Option Nat) (backOff : Bool) : Turn :=
  let deeds := if c.established then c.tellAll .down else []
  let pause := backOff || !c.established
  let c := { c with state := c.state.enter .disconnected, established := false }
  if pause then ({ c with task := .backingOff reusable }, deeds)
  else (c.proceed reusable).after deeds

/-- Comes to the end of a stream. -/
def endStream (c : Connection) (session : Nat) (e : StreamEnd) : Turn :=
  let interrupted := c.isInterrupted
  let (c, deeds) := c.stopWatchdog
  let c := { c with cancelled := none }
  let byItself := match e with
    | .finished _ => true
    | _ => false
  let backOff := e == .finished 0
  Turn.after deeds <|
    if byItself && !interrupted && c.isConnected session then c.afterStream (some session) backOff
    else ({ c with task := .releasing session backOff }, [.call (.disconnect session)])

/-- The stream is open: its observers are told, and reading begins. -/
def beginStream (c : Connection) (session : Nat) : Turn :=
  if c.state.mayChange then
    let c := { c with state := .connected, established := true }
    let stream : Stream :=
      ⟨session, c.provider, .ofCapacity c.config.receiveBufferSize.toNat, 0⟩
    ({ c with task := .reading stream }, c.tellAll .established)
  else c.endStream session .interrupted

/-- Takes octets of the stream and posts the lines that they complete. -/
def take (c : Connection) (s : Stream) (octets : List Text.Octet) : Turn :=
  let (lines, buffer) := (s.buffer.receive octets).drain
  let posts := if c.hasDispatcher then lines.map (Deed.post · s.provider) else []
  ({ c with task := .pausing { s with buffer, received := s.received + octets.length } },
    posts ++ if c.watched then [.signal] else [])

/-! ## Being interrupted -/

/-- Whether the task waits for something that it is to give up now. -/
def mustStop (c : Connection) : Bool :=
  match c.task with
  | .connecting | .querying _ | .rejecting _ | .retrying | .backingOff _ => c.shutdown
  | .opening _ | .reading _ | .pausing _ => c.isInterrupted
  | _ => false

/-- The task gives up what it waits for.  A session that is being opened or asked for its version
is let go without a word. -/
def stopWaiting (c : Connection) : Option Turn :=
  match c.task with
  | .connecting | .querying _ | .rejecting _ | .retrying => some (c.finish none)
  | .backingOff reusable => some (c.finish reusable)
  | .opening session => some (c.endStream session .interrupted)
  | .reading s | .pausing s => some (c.endStream s.session .interrupted)
  | _ => none

/-! ## Moves -/

/-- What can happen to a connection. -/
inductive Move where
  | start
  | shutdown
  | reconnect
  /-- The watchdog raises the alarm. -/
  | alarm
  /-- A session is no longer connected. -/
  | lose (session : Nat)
  /-- The task runs for the first time, or gives up what it waits for. -/
  | run
  | connected
  | refused (e : TransportError)
  | answered (output : String)
  | unanswered (e : TransportError)
  | opened
  | unopened (e : TransportError)
  | received (octets : List Text.Octet)
  | finished
  | broken
  /-- A session is disconnected. -/
  | released
  /-- A pause is over. -/
  | slept

/-- What the task does when that comes which it waits for; none if it waits for something else. -/
def resume (c : Connection) : Move → Option Turn
  | .connected =>
    match c.task with
    | .connecting =>
      let session := c.sessions
      some ({ c with sessions := session + 1, task := .querying session },
        [.call (.execute session versionCommand)])
    | _ => none
  | .refused _ =>
    match c.task with
    | .connecting => some ({ c with task := .retrying }, [])
    | _ => none
  | .answered output =>
    match c.task with
    | .querying session => some ({ c with version := some (versionOf output) }.openStream session)
    | _ => none
  | .unanswered _ =>
    match c.task with
    | .querying session =>
      some ({ c with task := .rejecting session }, [.call (.disconnect session)])
    | _ => none
  | .opened =>
    match c.task with
    | .opening session => some (c.beginStream session)
    | _ => none
  | .unopened _ =>
    match c.task with
    | .opening session => some (c.endStream session .failed)
    | _ => none
  | .received octets =>
    match c.task with
    | .reading s =>
      if octets.isEmpty || s.buffer.room < octets.length then none else some (c.take s octets)
    | _ => none
  | .finished =>
    match c.task with
    | .reading s => some (c.endStream s.session (.finished s.received))
    | _ => none
  | .broken =>
    match c.task with
    | .reading s => some (c.endStream s.session .failed)
    | _ => none
  | .released =>
    match c.task with
    | .rejecting _ => some ({ c with task := .retrying }, [])
    | .releasing _ backOff => some (c.afterStream none backOff)
    | .discarding _ => some c.connect
    | .closing _ => some (c.finish none)
    | _ => none
  | .slept =>
    match c.task with
    | .retrying => some c.connect
    | .backingOff reusable => some (c.proceed reusable)
    | .pausing s => some ({ c with task := .reading s }, [])
    | _ => none
  | _ => none

/-- One move, and what the connection does in it; none if there is no such move now.  What the task
waits for is looked at only after it has been found that it need not stop. -/
def step (c : Connection) : Move → Option Turn
  | .start =>
    match c.start? with
    | .ok c => some (c, [])
    | .error _ => some (c, [])
  | .shutdown => some c.requestShutdown
  | .reconnect => some c.reconnect
  | .alarm => if c.watched then some c.reconnect else none
  | .lose session =>
    if session < c.sessions then some ({ c with lost := session :: c.lost }, []) else none
  | .run =>
    match c.task with
    | .spawned => some (c.proceed none)
    | _ => if c.mustStop then c.stopWaiting else none
  | move => if c.mustStop then none else c.resume move

/-- A sequence of moves, and what the connection does in them. -/
def run (c : Connection) : List Move → Option Turn
  | [] => some (c, [])
  | move :: rest => do
    let (c, deeds) ← c.step move
    let (c, later) ← c.run rest
    return (c, deeds ++ later)

end Connection

end ReviewStream
