import ReviewStream.Config.Basic

/-!
# Settings as data

The shapes from which settings are read and the records in which they are shown.
-/

namespace ReviewStream

open Json (Shape Fields)

/-- An unsigned integer of 64 bits as a word. -/
def Json.Shape.word64 : Shape UInt64 := fun v => (Shape.unsigned64 v).map UInt64.ofNat

/-- A size in memory as a word. -/
def Json.Shape.wordSize : Shape UInt64 := fun v => (Shape.size v).map UInt64.ofNat

/-- An unsigned integer of 16 bits as a word. -/
def Json.Shape.word16 : Shape UInt16 := fun v => (Shape.unsigned16 v).map UInt16.ofNat

/-- A word as a number. -/
def Json.word (n : UInt64) : Json := .nat n.toNat

/-! ## Connection -/

/-- The fields of a connection's settings; the passphrase is none of them. -/
def ConnectionConfig.fields : Fields ConnectionConfig :=
  (fun name host port proxy frontendUrl username privateKeyFile keepaliveSecs receiveBufferSize
      watchdogTimeoutSecs watchdogWindows =>
    ({ name, host, port, proxy, frontendUrl, username, privateKeyFile, passphrase := none,
       keepaliveSecs, receiveBufferSize, watchdogTimeoutSecs, watchdogWindows }
      : ConnectionConfig))
    <$> .defaulted "name" "defaultServer" Shape.text <*> .required "host" Shape.text
    <*> .defaulted "port" defaultPort Shape.word16 <*> .optional "proxy" Shape.text
    <*> .defaulted "frontend_url" "" Shape.text <*> .required "username" Shape.text
    <*> .optional "private_key_file" Shape.path
    <*> .defaulted "keepalive_interval_secs" 0 Shape.word64
    <*> .defaulted "receive_buffer_size" defaultBufferSize Shape.wordSize
    <*> .defaulted "watchdog_timeout_secs" 0 Shape.word64
    <*> .defaulted "watchdog_windows" [] Window.shape.items

/-- The shape of a connection's settings. -/
def ConnectionConfig.shape : Shape ConnectionConfig := .record "ConnectionConfig" fields

/-- The record of a connection's settings. -/
def ConnectionConfig.toJson (c : ConnectionConfig) : Json :=
  .object [("name", .text c.name), ("host", .text c.host), ("port", .nat c.port.toNat),
    ("proxy", .optText c.proxy), ("frontend_url", .text c.frontendUrl),
    ("username", .text c.username), ("private_key_file", .optText c.privateKeyFile),
    ("keepalive_interval_secs", .word c.keepaliveSecs),
    ("receive_buffer_size", .word c.receiveBufferSize),
    ("watchdog_timeout_secs", .word c.watchdogTimeoutSecs),
    ("watchdog_windows", .list (c.watchdogWindows.map Window.toJson))]

/-! ## Dispatch -/

/-- Puts an entry into a list sorted by servers, in the place of an earlier one. -/
def putEntry (key value : String) : List (String × String) → List (String × String)
  | [] => [(key, value)]
  | (k, v) :: rest =>
    if key = k then (key, value) :: rest
    else if Json.keyLess key k then (key, value) :: (k, v) :: rest
    else (k, v) :: putEntry key value rest

/-- The fields of the dispatcher's settings. -/
def DispatchConfig.fields : Fields DispatchConfig :=
  (fun workerThreads keepAliveSecs queueWarningThreshold shutdownGraceSecs entries =>
    ({ workerThreads, keepAliveSecs, queueWarningThreshold, shutdownGraceSecs,
       ignoreEmail := entries.foldl (fun sorted (k, v) => putEntry k v sorted) [] }
      : DispatchConfig))
    <$> .defaulted "worker_threads" standard.workerThreads Shape.wordSize
    <*> .defaulted "keep_alive_secs" standard.keepAliveSecs Shape.word64
    <*> .defaulted "queue_warning_threshold" standard.queueWarningThreshold Shape.wordSize
    <*> .defaulted "shutdown_grace_secs" standard.shutdownGraceSecs Shape.word64
    <*> .defaulted "ignore_email" [] Shape.textMap

/-- The shape of the dispatcher's settings. -/
def DispatchConfig.shape : Shape DispatchConfig := .record "DispatchConfig" fields

/-- The record of the dispatcher's settings. -/
def DispatchConfig.toJson (c : DispatchConfig) : Json :=
  .object [("worker_threads", .word c.workerThreads), ("keep_alive_secs", .word c.keepAliveSecs),
    ("queue_warning_threshold", .word c.queueWarningThreshold),
    ("shutdown_grace_secs", .word c.shutdownGraceSecs),
    ("ignore_email", .object (c.ignoreEmail.map fun (k, v) => (k, .text v)))]

/-! ## Whitelist -/

/-- The fields of the whitelist's settings. -/
def WhitelistConfig.fields : Fields WhitelistConfig :=
  WhitelistConfig.mk <$> .optional "location" Shape.path
    <*> .defaulted "refresh_minutes" standard.refreshMinutes Shape.word64

/-- The shape of the whitelist's settings. -/
def WhitelistConfig.shape : Shape WhitelistConfig := .record "WhitelistConfig" fields

/-- The record of the whitelist's settings. -/
def WhitelistConfig.toJson (c : WhitelistConfig) : Json :=
  .object [("location", .optText c.location), ("refresh_minutes", .word c.refreshMinutes)]

/-! ## All settings -/

/-- The fields of all settings. -/
def Config.fields : Fields Config :=
  Config.mk <$> .required "gerrit" ConnectionConfig.shape
    <*> .defaulted "dispatch" .standard DispatchConfig.shape
    <*> .defaulted "whitelist" .standard WhitelistConfig.shape

/-- The shape of all settings. -/
def Config.shape : Shape Config := .record "TomlConfig" fields

end ReviewStream
