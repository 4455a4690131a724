import ReviewStream.Json.Fields

/-!
# Errors

Everything that can go wrong, by cause, and one wording for each cause.

* `ConfigError`, `TransportError`, `ConnectionError`, `DecodeError`, `PoolError`, `ListenerError`:
  the causes by the part of the program in which they arise.
* `Failure`: any of them, worded with the name of its part in front.
-/

namespace ReviewStream

/-- Why a configuration is not valid. -/
inductive Invalid where
  | zeroPort
  | zeroBuffer
  /-- Watchdog windows are given while the watchdog is off. -/
  | idleWindows
  | zeroWorkers
  /-- The text is not a configuration file. -/
  | malformed
  | other (message : String)
deriving DecidableEq

/-- The wording of a reason. -/
def Invalid.message : Invalid → String
  | .zeroPort => "Port cannot be zero"
  | .zeroBuffer => "Receive buffer size cannot be zero"
  | .idleWindows => "Watchdog windows are set but the watchdog is disabled"
  | .zeroWorkers => "Worker thread count cannot be zero"
  | .malformed => "Failed to parse config file"
  | .other message => message

/-- Errors of the configuration. -/
inductive ConfigError where
  | loadFailed (path : String)
  | missingField (field : String)
  | invalid (reason : Invalid)
  | io (message : String)
deriving DecidableEq

/-- The wording of a configuration error. -/
def ConfigError.message : ConfigError → String
  | .loadFailed path => "Failed to load configuration file: " ++ path
  | .missingField field => "Missing required configuration field: " ++ field
  | .invalid reason => "Configuration validation error: " ++ reason.message
  | .io message => "I/O error: " ++ message

/-- Errors of the transport. -/
inductive TransportError where
  | connectFailed (host : String) (port : Nat) (reason : String)
  | authenticationFailed (username : String)
  | invalidProxy (proxy : String)
  | commandFailed (command reason : String)
  | channelFailed (reason : String)
  | notConnected
  | clientUnavailable (reason : String)
deriving DecidableEq

/-- The wording of a transport error. -/
def TransportError.message : TransportError → String
  | .connectFailed host port reason =>
    "Could not connect to " ++ host ++ ":" ++ Text.natText port ++ ": " ++ reason
  | .authenticationFailed username => "Authentication failed for user " ++ username
  | .invalidProxy proxy => "Invalid proxy specification: " ++ proxy
  | .commandFailed command reason => "Remote command '" ++ command ++ "' failed: " ++ reason
  | .channelFailed reason => "Failed to open exec channel: " ++ reason
  | .notConnected => "Session is not connected"
  | .clientUnavailable reason => "SSH client not available: " ++ reason

/-- Misuse of a connection. -/
inductive ConnectionError where
  | alreadyStarted (name : String)
  | shutDown (name : String)
deriving DecidableEq

/-- The wording of a connection error. -/
def ConnectionError.message : ConnectionError → String
  | .alreadyStarted name => "Connection to " ++ name ++ " has already been started"
  | .shutDown name => "Connection to " ++ name ++ " has been shut down"

/-- Why a text or a value is no event. -/
inductive DecodeError where
  /-- The text is not JSON. -/
  | syntaxFault
  /-- The value does not have the shape of its type. -/
  | data (fault : Json.Fault)
  | missingType
  | notAnObject
deriving DecidableEq

/-- The wording of a decode error. -/
def DecodeError.message : DecodeError → String
  | .syntaxFault => "Invalid JSON"
  | .data fault => "Invalid JSON: " ++ fault.message
  | .missingType => "Event has no type field"
  | .notAnObject => "Event payload is not a JSON object"

/-- Errors of the worker pool. -/
inductive PoolError where
  | rejected
  | invalidBounds (core max : Nat)
  | spawnFailed (reason : String)
deriving DecidableEq

/-- The wording of a pool error. -/
def PoolError.message : PoolError → String
  | .rejected => "Work rejected: pool is shutting down"
  | .invalidBounds core max =>
    "Invalid pool bounds: core size " ++ Text.natText core ++ " exceeds maximum size "
      ++ Text.natText max
  | .spawnFailed reason => "Failed to spawn worker thread: " ++ reason

/-- The failure that a listener reports. -/
structure ListenerError where
  reason : String
deriving DecidableEq

/-- The wording of a listener's failure. -/
def ListenerError.message (e : ListenerError) : String :=
  "Listener failed: " ++ e.reason

/-- Any error that the program reports to its caller. -/
inductive Failure where
  | config (e : ConfigError)
  | transport (e : TransportError)
  | connection (e : ConnectionError)
  | decode (e : DecodeError)
  | pool (e : PoolError)
deriving DecidableEq

/-- The wording of the cause alone. -/
def Failure.cause : Failure → String
  | .config e => e.message
  | .transport e => e.message
  | .connection e => e.message
  | .decode e => e.message
  | .pool e => e.message

/-- The part of the program in which an error arose. -/
def Failure.part : Failure → String
  | .config _ => "Configuration error"
  | .transport _ => "Transport error"
  | .connection _ => "Connection error"
  | .decode _ => "Decode error"
  | .pool _ => "Pool error"

/-- The wording of an error with its part in front. -/
def Failure.message (e : Failure) : String :=
  e.part ++ ": " ++ e.cause

end ReviewStream
