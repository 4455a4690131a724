import ReviewStream.Config.File
import ReviewStream.Ssh.Proxy

/-!
# Arguments of the ssh client

The arguments that all calls of one session share.

* `sessionArguments?`: the arguments, unless the proxy is not valid.
* `controlPath`: the path of the socket over which the calls of a session are multiplexed.
-/

namespace ReviewStream.Ssh

/-- Seconds between keep-alive probes unless others are asked for. -/
def defaultAliveSecs : Nat := 30

/-- Seconds after which a connect is given up. -/
def connectTimeoutSecs : Nat := 10

/-- The arguments of a session.  With a passphrase one prompt has to be possible, and without one no
prompt is. -/
def sessionArguments? (c : ConnectionConfig) (control : String) :
    Except TransportError (List String) := do
  let alive := if c.keepaliveSecs = 0 then defaultAliveSecs else c.keepaliveSecs.toNat
  let interaction := if c.passphrase.isSome then "NumberOfPasswordPrompts=1" else "BatchMode=yes"
  let base :=
    ["-p", Text.natText c.port.toNat, "-l", c.username, "-o", interaction,
      "-o", "PreferredAuthentications=publickey", "-o", "StrictHostKeyChecking=accept-new",
      "-o", "ServerAliveInterval=" ++ Text.natText alive,
      "-o", "ConnectTimeout=" ++ Text.natText connectTimeoutSecs, "-S", control]
  let key := match c.privateKeyFile with
    | some file => ["-i", file, "-o", "IdentitiesOnly=yes"]
    | none => []
  let tunnel ← match c.proxy.filter (· ≠ "") with
    | some proxy => (Proxy.read? proxy).map fun p => ["-o", "ProxyCommand=" ++ p.command]
    | none => pure []
  pure (base ++ key ++ tunnel)

/-- The control socket of the connect with number `n` in a process, as a path under the directory
for temporary files.  The name of a server may have slashes in it. -/
def socketName (name : String) (process n : Nat) : String :=
  "gerrit-events-" ++ name ++ "-" ++ Text.natText process ++ "-" ++ Text.natText n ++ ".sock"

/-- The path of the control socket of the connect with number `n` in a process. -/
def controlPath (directory name : String) (process n : Nat) : String :=
  joinPath directory (socketName name process n)

end ReviewStream.Ssh
