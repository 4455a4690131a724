import ReviewStream.Command.Query
import ReviewStream.Transport.Basic

/-!
# Running commands and queries

* `CommandRunner.run`: one command on a session of its own.
* `QueryRunner.execute`: commands on one session that is kept as long as it stays connected.
* `QueryRunner.query`: the changes that a query finds.
-/

namespace ReviewStream

/-! ## Single commands -/

/-- Runs single commands. -/
structure CommandRunner where
  config : ConnectionConfig

namespace CommandRunner

variable {σ : Type}

/-- Runs a command on a new session, which is disconnected whether the command succeeds or not. -/
def run (t : Transport σ) (r : CommandRunner) (command : String) (s : σ) :
    Except TransportError String × σ :=
  match t.connect r.config s with
  | (.error e, s) => (.error e, s)
  | (.ok session, s) =>
    let (result, s) := t.execute session command s
    (result, t.disconnect session s)

/-- Whether a command succeeds. -/
def succeeds (t : Transport σ) (r : CommandRunner) (command : String) (s : σ) : Bool × σ :=
  let (result, s) := r.run t command s
  (result.isOk, s)

/-- The output of a command that succeeds. -/
def output? (t : Transport σ) (r : CommandRunner) (command : String) (s : σ) :
    Option String × σ :=
  let (result, s) := r.run t command s
  (result.toOption, s)

end CommandRunner

/-! ## Queries on one session -/

/-- Runs commands on one session that it keeps. -/
structure QueryRunner where
  config : ConnectionConfig
  session : Option Nat

namespace QueryRunner

variable {σ : Type}

/-- A runner that has no session yet. -/
def ofConfig (config : ConnectionConfig) : QueryRunner := ⟨config, none⟩

/-- Whether the session that is kept is connected. -/
def isConnected (t : Transport σ) (r : QueryRunner) (s : σ) : Bool :=
  match r.session with
  | some session => t.isConnected session s
  | none => false

/-- Gives up the session that is kept. -/
def disconnect (t : Transport σ) (r : QueryRunner) (s : σ) : QueryRunner × σ :=
  match r.session with
  | some session => ({ r with session := none }, t.disconnect session s)
  | none => (r, s)

/-- The session to run on: the one that is kept if it is connected, else a new one in its place. -/
def ready (t : Transport σ) (r : QueryRunner) (s : σ) :
    Except TransportError Nat × QueryRunner × σ :=
  match r.session with
  | some session =>
    if t.isConnected session s then (.ok session, r, s) else renew r s
  | none => renew r s
where
  /-- Gives up the session that is kept, if any, and connects. -/
  renew (r : QueryRunner) (s : σ) : Except TransportError Nat × QueryRunner × σ :=
    let (r, s) := r.disconnect t s
    match t.connect r.config s with
    | (.ok session, s) => (.ok session, { r with session := some session }, s)
    | (.error e, s) => (.error e, r, s)

/-- Runs a command.  A failed connect leaves the runner without a session, a failed command keeps
the session. -/
def execute (t : Transport σ) (r : QueryRunner) (command : String) (s : σ) :
    Except TransportError String × QueryRunner × σ :=
  match r.ready t s with
  | (.error e, r, s) => (.error e, r, s)
  | (.ok session, r, s) =>
    let (result, s) := t.execute session command s
    (result, r, s)

/-- Runs a query and reads the changes in its output. -/
def query (t : Transport σ) (r : QueryRunner) (options : QueryOptions) (query : String) (s : σ) :
    Except Failure (List Json) × QueryRunner × σ :=
  match r.execute t (options.command query) s with
  | (.error e, r, s) => (.error (.transport e), r, s)
  | (.ok output, r, s) => ((readChanges? output).mapError .decode, r, s)

end QueryRunner

end ReviewStream
