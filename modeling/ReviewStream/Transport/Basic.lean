import ReviewStream.Config.Basic

/-!
# Transports

A transport opens sessions to a server; commands run on a session.  Sessions are told apart by
their numbers, which count the successful connects.

* `TransportCall`: what can be asked of a transport.
* `Transport`: a transport whose answers depend on the state of the world beyond it.
-/

namespace ReviewStream

/-- What can be asked of a transport. -/
inductive TransportCall where
  | connect (config : ConnectionConfig)
  | execute (session : Nat) (command : String)
  /-- Starts a command whose output is read while it runs. -/
  | openStream (session : Nat) (command : String)
  | disconnect (session : Nat)
deriving DecidableEq

/-- A transport in a world with states `σ`, as callers see it that wait for every answer. -/
structure Transport (σ : Type) where
  connect : ConnectionConfig → σ → Except TransportError Nat × σ
  execute : (session : Nat) → (command : String) → σ → Except TransportError String × σ
  isConnected : (session : Nat) → σ → Bool
  disconnect : (session : Nat) → σ → σ

end ReviewStream
