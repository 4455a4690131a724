import ReviewStream.Error
import ReviewStream.Url.Authority

/-!
# Proxies

A session may be tunnelled through a proxy, named by a URL with the scheme `socks5` or `http`.

* `Proxy.read?`: the proxy that a URL names.
* `Proxy.command`: the command that connects through it.
-/

namespace ReviewStream

/-- How a proxy is spoken to. -/
inductive Proxy.Kind where
  | socks5
  | http
deriving DecidableEq

/-- A proxy. -/
structure Proxy where
  kind : Proxy.Kind
  host : String
  port : Nat
deriving DecidableEq

namespace Proxy

/-- The scheme of a kind. -/
def Kind.scheme : Kind → String
  | .socks5 => "socks5"
  | .http => "http"

/-- The protocol name that the tunnel program takes. -/
def Kind.protocol : Kind → String
  | .socks5 => "5"
  | .http => "connect"

/-- The proxy that a URL names. -/
def read? (proxy : String) : Except TransportError Proxy :=
  match Authority.read? proxy with
  | some { scheme := "socks5", host, port := some port } => .ok ⟨.socks5, host, port⟩
  | some { scheme := "http", host, port := some port } => .ok ⟨.http, host, port⟩
  | _ => .error (.invalidProxy proxy)

/-- The command that connects a session through the proxy; the placeholders stand for the host and
the port of the session. -/
def command (p : Proxy) : String :=
  "nc -X " ++ p.kind.protocol ++ " -x " ++ p.host ++ ":" ++ Text.natText p.port ++ " %h %p"

end Proxy

end ReviewStream
