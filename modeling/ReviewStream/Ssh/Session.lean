import ReviewStream.Ssh.Arguments
import ReviewStream.Ssh.AskPass
import ReviewStream.Transport.Basic

/-!
# Sessions of the ssh client

A connect starts the client as a control master, which authenticates once; commands run over its
control socket.  The client is a program that is there or not, and answers each call.

* `Ssh.Client`: how the client answers.
* `Ssh.World`: the client with the files, the calls and the sessions so far.
* `Ssh.transport`: the transport over that world.
-/

namespace ReviewStream.Ssh

open Text (Octet)

/-! ## The client -/

/-- How a command ends that the client runs. -/
structure CommandResult where
  stdout : List Octet
  stderr : List Octet
  exit : Nat
  /-- Whether it keeps running after it has written its output. -/
  hangs : Bool

/-- What there is for a command that the server does not know. -/
def CommandResult.unknown : CommandResult :=
  ⟨[], Text.encode "fatal: unknown command\n".toList, 1, false⟩

/-- The ssh client and the server that it reaches. -/
structure Client where
  /-- What the control master writes before it exits, unless it stays up. -/
  refusal : Option (List Octet)
  commands : List (String × CommandResult)

/-- What comes of a command. -/
def Client.run (c : Client) (command : String) : CommandResult :=
  (c.commands.lookup command).getD .unknown

/-! ## Calls -/

/-- What a call of the client is for. -/
inductive Purpose where
  | master
  | command
  | leave
deriving DecidableEq

/-- A call of the client, with the variables that are set for it. -/
structure Invocation where
  purpose : Purpose
  args : List String
  environment : Environment
deriving DecidableEq

/-- A session: the arguments of all its calls and its host. -/
structure Session where
  args : List String
  host : String
deriving DecidableEq

namespace Session

/-- The call that starts the control master. -/
def master (s : Session) (environment : Environment) : Invocation :=
  ⟨.master, s.args ++ ["-M", "-N", s.host], environment⟩

/-- The call that runs a command. -/
def command (s : Session) (command : String) : Invocation :=
  ⟨.command, s.args ++ [s.host, command], []⟩

/-- The call that ends the control master. -/
def leave (s : Session) : Invocation :=
  ⟨.leave, s.args ++ ["-O", "exit", s.host], []⟩

end Session

/-! ## The world of the transport -/

/-- The client with everything that the transport touches. -/
structure World where
  client : Option Client
  hasDisplay : Bool
  /-- The path of the control socket by the name of the server and the number of the connect. -/
  controlPath : String → Nat → String
  places : Places
  /-- Counts the connects; after the greatest word it begins again at zero. -/
  connects : UInt64
  /-- The sessions handed out so far. -/
  sessions : List Session
  /-- The sessions whose control master is up. -/
  up : List Nat
  calls : List Invocation

namespace World

/-- Takes down a call. -/
def record (w : World) (call : Invocation) : World := { w with calls := w.calls ++ [call] }

/-- The error that the last words of a control master stand for. -/
def classify (c : ConnectionConfig) (stderr : List Octet) : TransportError :=
  let text := (Text.decode? stderr).getD []
  let mentions (words : String) := Text.hasPiece words.toList text
  if mentions "Permission denied" || mentions "Too many authentication failures" then
    .authenticationFailed c.username
  else .connectFailed c.host c.port.toNat (String.ofList (Text.trim text))

/-- Starts a control master, whose helper has been installed if there is a passphrase. -/
def startMaster (w : World) (c : ConnectionConfig) (s : Session) (environment : Environment) :
    Except TransportError Nat × World :=
  match w.client with
  | none =>
    (.error (.connectFailed c.host c.port.toNat
      "Failed to spawn ssh: No such file or directory (os error 2)"), w)
  | some client =>
    let w := w.record (s.master environment)
    match client.refusal with
    | some stderr => (.error (classify c stderr), w)
    | none =>
      let number := w.sessions.length
      (.ok number, { w with sessions := w.sessions ++ [s], up := number :: w.up })

/-- Opens a session.  The helper lives only until the master has authenticated or failed to. -/
def connect (c : ConnectionConfig) (w : World) : Except TransportError Nat × World :=
  let control := w.controlPath c.name w.connects.toNat
  let w := { w with connects := w.connects + 1 }
  match sessionArguments? c control with
  | .error e => (.error e, w)
  | .ok args =>
    let s : Session := ⟨args, c.host⟩
    match c.passphrase with
    | none => w.startMaster c s []
    | some passphrase =>
      match AskPass.install? w.places control with
      | .error e => (.error e, w)
      | .ok (askpass, places) =>
        let (result, w) := { w with places }.startMaster c s
          (askpass.environment passphrase w.hasDisplay)
        (result, { w with places := askpass.remove w.places })

/-- Whether the control master of a session is up. -/
def isConnected (session : Nat) (w : World) : Bool := w.up.contains session

/-- Runs a command on a session that is connected. -/
def run (session : Nat) (command : String) (w : World) :
    Except TransportError CommandResult × World :=
  match w.client, w.sessions[session]? with
  | some client, some s =>
    if isConnected session w then (.ok (client.run command), w.record (s.command command))
    else (.error .notConnected, w)
  | _, _ => (.error .notConnected, w)

/-- The output of a command that succeeds, ill-formed parts replaced. -/
def execute (session : Nat) (command : String) (w : World) : Except TransportError String × World :=
  match w.run session command with
  | (.error e, w) => (.error e, w)
  | (.ok r, w) =>
    if r.exit = 0 then (.ok (String.ofList (Text.decodeLossy r.stdout)), w)
    else
      (.error (.commandFailed command (String.ofList (Text.trim (Text.decodeLossy r.stderr)))), w)

/-- Ends a session that is connected. -/
def disconnect (session : Nat) (w : World) : World :=
  match w.sessions[session]? with
  | some s =>
    if isConnected session w then
      { w with up := w.up.filter (· != session) }.record s.leave
    else w
  | none => w

end World

/-- The transport that runs the ssh client. -/
def transport : Transport World where
  connect := World.connect
  execute := World.execute
  isConnected := World.isConnected
  disconnect := World.disconnect

end ReviewStream.Ssh
