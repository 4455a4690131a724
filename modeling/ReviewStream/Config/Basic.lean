import ReviewStream.Error
import ReviewStream.Watchdog.Window

/-!
# Settings

The settings of a stream connection, of the dispatcher and of the whitelist, with their defaults
and the rules that they have to satisfy.

* `ConnectionConfig`, `DispatchConfig`, `WhitelistConfig`: the three sections, and `Config` all of
  them.
* `ConnectionConfig.check?`, `DispatchConfig.check?`: the first rule that a section breaks.
* `Credential`: the part of a connection's settings that may be replaced before a connect.
-/

namespace ReviewStream

/-- What a session is authenticated with. -/
structure Credential where
  username : String
  privateKeyFile : Option String
  passphrase : Option String
deriving DecidableEq

/-- The settings of one stream connection. -/
structure ConnectionConfig where
  name : String
  host : String
  port : UInt16
  proxy : Option String
  frontendUrl : String
  username : String
  privateKeyFile : Option String
  /-- Given by the program that embeds the connection; never part of a file. -/
  passphrase : Option String
  /-- Seconds between keep-alive probes, zero standing for the default. -/
  keepaliveSecs : UInt64
  receiveBufferSize : UInt64
  /-- Seconds of silence before the watchdog acts, zero standing for no watchdog. -/
  watchdogTimeoutSecs : UInt64
  watchdogWindows : List Window
deriving DecidableEq

namespace ConnectionConfig

/-- The default port. -/
def defaultPort : UInt16 := 29418

/-- The default size of the receive buffer. -/
def defaultBufferSize : UInt64 := 16384

/-- Settings with defaults for everything but the target. -/
def ofTarget (name host username : String) : ConnectionConfig where
  name
  host
  port := defaultPort
  proxy := none
  frontendUrl := ""
  username
  privateKeyFile := none
  passphrase := none
  keepaliveSecs := 0
  receiveBufferSize := defaultBufferSize
  watchdogTimeoutSecs := 0
  watchdogWindows := []

/-- The first rule that the settings break. -/
def check? (c : ConnectionConfig) : Option ConfigError :=
  if c.host = "" then some (.missingField "host")
  else if c.username = "" then some (.missingField "username")
  else if c.port = 0 then some (.invalid .zeroPort)
  else if c.receiveBufferSize = 0 then some (.invalid .zeroBuffer)
  else if c.watchdogWindows ≠ [] ∧ c.watchdogTimeoutSecs = 0 then some (.invalid .idleWindows)
  else none

/-- The credential among the settings. -/
def credential (c : ConnectionConfig) : Credential :=
  { username := c.username, privateKeyFile := c.privateKeyFile, passphrase := c.passphrase }

/-- The settings with another credential. -/
def withCredential (c : ConnectionConfig) (k : Credential) : ConnectionConfig :=
  { c with username := k.username, privateKeyFile := k.privateKeyFile, passphrase := k.passphrase }

/-- The time of silence after which the watchdog acts, if there is one. -/
def watchdogTimeout? (c : ConnectionConfig) : Option UInt64 :=
  if 0 < c.watchdogTimeoutSecs then some c.watchdogTimeoutSecs else none

end ConnectionConfig

/-- The settings of the dispatcher. -/
structure DispatchConfig where
  workerThreads : UInt64
  keepAliveSecs : UInt64
  queueWarningThreshold : UInt64
  shutdownGraceSecs : UInt64
  /-- For each server the ending of addresses whose comments are not passed on, in the order of the
  servers' names. -/
  ignoreEmail : List (String × String)
deriving DecidableEq

namespace DispatchConfig

/-- The least time that an idle worker is kept. -/
def leastKeepAliveSecs : UInt64 := 10

/-- The default settings. -/
def standard : DispatchConfig where
  workerThreads := 3
  keepAliveSecs := 1200
  queueWarningThreshold := 40
  shutdownGraceSecs := 30
  ignoreEmail := []

/-- The rule that the settings break. -/
def check? (c : DispatchConfig) : Option ConfigError :=
  if c.workerThreads = 0 then some (.invalid .zeroWorkers) else none

/-- The time that an idle worker is kept. -/
def keepAlive (c : DispatchConfig) : UInt64 := max c.keepAliveSecs leastKeepAliveSecs

end DispatchConfig

/-- The settings of the whitelist. -/
structure WhitelistConfig where
  /-- The file with the projects; without it every project passes. -/
  location : Option String
  refreshMinutes : UInt64
deriving DecidableEq

namespace WhitelistConfig

/-- The default settings. -/
def standard : WhitelistConfig where
  location := none
  refreshMinutes := 30

/-- Seconds between two reloads. -/
def refreshSecs (c : WhitelistConfig) : UInt64 := max c.refreshMinutes 1 * 60

end WhitelistConfig

/-- All settings. -/
structure Config where
  connection : ConnectionConfig
  dispatch : DispatchConfig
  whitelist : WhitelistConfig
deriving DecidableEq

namespace Config

/-- Settings of a connection with defaults for the rest. -/
def ofConnection (connection : ConnectionConfig) : Config where
  connection
  dispatch := .standard
  whitelist := .standard

/-- The first rule that the settings break. -/
def check? (c : Config) : Option ConfigError :=
  c.connection.check?.or c.dispatch.check?

end Config

end ReviewStream
