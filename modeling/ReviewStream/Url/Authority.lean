import ReviewStream.Url.Host

/-!
# Scheme, host and port of a URL

As much of a URL as is needed to reach a server.  Two families of schemes are told apart: after a
well-known scheme any number of slashes and backslashes is passed over, and a default port is
known; after any other scheme the host is named only after two slashes.

* `Authority.read?`: the scheme, the host and the port of a URL that has a host.
-/

namespace ReviewStream

/-- Where a URL points to. -/
structure Authority where
  scheme : String
  host : String
  port : Option Nat
deriving DecidableEq

namespace Authority

/-- The well-known schemes that name a host, with their default ports. -/
def defaultPorts : List (String × Nat) :=
  [("http", 80), ("https", 443), ("ws", 80), ("wss", 443), ("ftp", 21)]

/-- Drops controls and blanks at both ends, and tabs and line ends everywhere. -/
def clean (cs : List Char) : List Char :=
  let edge (c : Char) : Bool := c.toNat ≤ 0x20
  (((cs.dropWhile edge).reverse.dropWhile edge).reverse).filter fun c =>
    c != '\t' && c != '\n' && c != '\r'

/-- The scheme in lower case and what follows its colon. -/
def readScheme? (cs : List Char) : Option (String × List Char) :=
  match Text.cutAt ':' cs with
  | some (c :: r, rest) =>
    if c.isAlpha ∧ r.all (fun c => c.isAlphanum || c == '+' || c == '-' || c == '.') then
      some (String.ofList ((c :: r).map Char.toLower), rest)
    else none
  | _ => none

/-- Whether a character ends the authority. -/
def endsAuthority (wellKnown : Bool) (c : Char) : Bool :=
  c == '/' || c == '?' || c == '#' || (wellKnown && c == '\\')

/-- What follows the last at sign. -/
def afterUser (cs : List Char) : List Char :=
  (cs.reverse.takeWhile (· != '@')).reverse

/-- The host up to a colon outside brackets, and what follows it. -/
def cutHost : (inside : Bool) → List Char → List Char × List Char
  | _, [] => ([], [])
  | inside, c :: r =>
    if c == ':' && !inside then ([], c :: r)
    else
      let (host, rest) := cutHost (if c == '[' then true else if c == ']' then false else inside) r
      (c :: host, rest)

/-- The port after its colon, `none` standing for none given.  A backslash ends it. -/
def readPort? (cs : List Char) : Option (Option Nat) :=
  let cs := cs.takeWhile (· != '\\')
  if !cs.all Char.isDigit then none
  else if cs.isEmpty then some none
  else
    let n := cs.foldl (fun n c => n * 10 + (c.toNat - 48)) 0
    if n < UInt16.size then some (some n) else none

/-- The scheme, the host and the port of a URL; the port is the default one if none is given. -/
def read? (url : String) : Option Authority := do
  let (scheme, rest) ← readScheme? (clean url.toList)
  let default := defaultPorts.lookup scheme
  let wellKnown := default.isSome
  let rest ←
    if wellKnown then some (rest.dropWhile fun c => c == '/' || c == '\\')
    else match rest with
      | '/' :: '/' :: r => some r
      | _ => none
  let authority := afterUser (rest.takeWhile (!endsAuthority wellKnown ·))
  let (name, after) := cutHost false authority
  let host ← Host.read? wellKnown name
  if host.isEmpty then none
  else
    let port ← match after with
      | _ :: digits => readPort? digits
      | [] => some none
    some { scheme, host := String.ofList host, port := port.or default }

end Authority

end ReviewStream
