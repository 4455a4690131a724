import ReviewStream.Text.Utf8
import ReviewStream.Transport.Basic

/-!
# Transports that follow a script

A script fixes what a server answers and when, on a clock of its own that moves only while an
answer is awaited.

* `Script.transport`: the transport that answers as the script says and takes down each call with
  its moment.

Moments are counted in milliseconds.
-/

namespace ReviewStream

open Text (Octet)

/-- An answer and the time until it comes. -/
structure Delayed (α : Type) where
  delay : Nat
  answer : Except TransportError α

/-- What a stream does next. -/
inductive StreamStep where
  /-- Nothing comes for a time that begins when a read gets here. -/
  | wait (delay : Nat)
  | data (octets : List Octet)
  /-- The session is no longer connected. -/
  | die
  | finish
  | fault
deriving DecidableEq

/-- The answers of a session to commands and to streams that are opened. -/
structure ScriptedSession where
  outputs : List (Delayed String)
  streams : List (Delayed (List StreamStep))

/-- What is left of a script. -/
structure Script where
  now : Nat
  attempts : List (Delayed ScriptedSession)
  /-- The sessions handed out so far. -/
  sessions : List ScriptedSession
  /-- The sessions that are no longer connected. -/
  lost : List Nat
  calls : List (Nat × TransportCall)

namespace Script

/-- A script from its beginning. -/
def ofAttempts (attempts : List (Delayed ScriptedSession)) : Script :=
  { now := 0, attempts, sessions := [], lost := [], calls := [] }

/-- The answer to the next connect. -/
def nextAttempt (config : ConnectionConfig) (s : Script) : Delayed ScriptedSession × Script :=
  match s.attempts with
  | a :: rest => (a, { s with attempts := rest })
  | [] => (⟨0, .error (.connectFailed config.host config.port.toNat "script exhausted")⟩, s)

/-- The answer to the next command on a session. -/
def nextOutput (session : Nat) (s : Script) : Delayed String × Script :=
  match s.sessions[session]? with
  | some ⟨o :: rest, streams⟩ =>
    (o, { s with sessions := s.sessions.set session ⟨rest, streams⟩ })
  | _ => (⟨0, .ok ""⟩, s)

/-- The answer to the next opening of a stream on a session. -/
def nextStream (session : Nat) (s : Script) : Delayed (List StreamStep) × Script :=
  match s.sessions[session]? with
  | some ⟨outputs, a :: rest⟩ =>
    (a, { s with sessions := s.sessions.set session ⟨outputs, rest⟩ })
  | _ => (⟨0, .error (.channelFailed "no stream scripted")⟩, s)

/-- Hands out a session. -/
def handOut (session : ScriptedSession) (s : Script) : Nat × Script :=
  (s.sessions.length, { s with sessions := s.sessions ++ [session] })

/-- Takes down a call at this moment. -/
def record (call : TransportCall) (s : Script) : Script :=
  { s with calls := s.calls ++ [(s.now, call)] }

/-- Lets time pass. -/
def pass (delay : Nat) (s : Script) : Script := { s with now := s.now + delay }

/-- A session that was handed out is no longer connected. -/
def lose (session : Nat) (s : Script) : Script :=
  if session < s.sessions.length then { s with lost := session :: s.lost } else s

/-- The calls taken down so far, and the script without them. -/
def takeCalls (s : Script) : List (Nat × TransportCall) × Script :=
  (s.calls, { s with calls := [] })

/-- The transport that follows the script. -/
def transport : Transport Script where
  connect config s :=
    let (a, s) := (s.record (.connect config)).nextAttempt config
    let s := s.pass a.delay
    match a.answer with
    | .ok session => let (n, s) := s.handOut session; (.ok n, s)
    | .error e => (.error e, s)
  execute session command s :=
    let (a, s) := (s.record (.execute session command)).nextOutput session
    (a.answer, s.pass a.delay)
  isConnected session s := !s.lost.contains session
  disconnect session s := (s.record (.disconnect session)).lose session

end Script

end ReviewStream
