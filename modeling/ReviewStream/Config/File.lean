import ReviewStream.Config.Record
import ReviewStream.Text.Utf8
import ReviewStream.Toml.Reader
import ReviewStream.Toml.Writer

/-!
# Settings files

Settings are kept in a TOML file with the tables `gerrit`, `dispatch` and `whitelist`.

* `Config.ofFile?`: loads a file; what it says has to satisfy the rules of the settings.
* `Config.toFile?`: the text of a file, with the passphrase left out.
* `configPath?`: where the file is looked for.
-/

namespace ReviewStream

open Text (Octet)

/-- What is found at a path. -/
inductive FileContent where
  | absent
  | directory
  | octets (bs : List Octet)

/-- Loads settings from what is found at a path. -/
def Config.ofFile? (path : String) (file : FileContent) : Except ConfigError Config :=
  match file with
  | .absent => .error (.loadFailed path)
  | .directory => .error (.io "Failed to read config file: Is a directory (os error 21)")
  | .octets bs =>
    match Text.decode? bs with
    | none => .error (.io "Failed to read config file: stream did not contain valid UTF-8")
    | some cs =>
      match (Toml.read? (String.ofList cs)).map fun root => Config.shape root.toJson with
      | some (.ok c) =>
        match c.check? with
        | some e => .error e
        | none => .ok c
      | _ => .error (.invalid .malformed)

/-! ## Saving -/

/-- A text that may be absent, as no member or one. -/
def textMember (key : String) : Option String → List (String × Toml)
  | none => []
  | some s => [(key, .text s)]

/-- A word as a TOML integer. -/
def Toml.word (n : UInt64) : Toml := .integer n.toNat

/-- The table of a window. -/
def Window.toToml (w : Window) : Toml :=
  .table .header [("start", .text w.start.toText), ("end", .text w.stop.toText),
    ("weekdays", .array (w.weekdays.map fun d => .text d.shortName))]

/-- The windows under a repeated header, or as an empty list. -/
def windowsToToml (ws : List Window) : Toml :=
  if ws.isEmpty then .array [] else .tables (ws.map Window.toToml)

/-- The table of a connection's settings, without the passphrase. -/
def ConnectionConfig.toToml (c : ConnectionConfig) : Toml :=
  .table .header
    ([("name", .text c.name), ("host", .text c.host), ("port", .integer c.port.toNat)]
      ++ textMember "proxy" c.proxy
      ++ [("frontend_url", .text c.frontendUrl), ("username", .text c.username)]
      ++ textMember "private_key_file" c.privateKeyFile
      ++ [("keepalive_interval_secs", .word c.keepaliveSecs),
        ("receive_buffer_size", .word c.receiveBufferSize),
        ("watchdog_timeout_secs", .word c.watchdogTimeoutSecs),
        ("watchdog_windows", windowsToToml c.watchdogWindows)])

/-- The table of the dispatcher's settings. -/
def DispatchConfig.toToml (c : DispatchConfig) : Toml :=
  .table .header
    [("worker_threads", .word c.workerThreads), ("keep_alive_secs", .word c.keepAliveSecs),
      ("queue_warning_threshold", .word c.queueWarningThreshold),
      ("shutdown_grace_secs", .word c.shutdownGraceSecs),
      ("ignore_email", .table .header (c.ignoreEmail.map fun (k, v) => (k, .text v)))]

/-- The table of the whitelist's settings. -/
def WhitelistConfig.toToml (c : WhitelistConfig) : Toml :=
  .table .header (textMember "location" c.location ++ [("refresh_minutes", .word c.refreshMinutes)])

/-- The root table of all settings. -/
def Config.toToml (c : Config) : Toml :=
  .table .header [("gerrit", c.connection.toToml), ("dispatch", c.dispatch.toToml),
    ("whitelist", c.whitelist.toToml)]

/-- The words among the settings, each of which has to fit into a TOML integer. -/
def Config.words (c : Config) : List UInt64 :=
  [c.connection.keepaliveSecs, c.connection.receiveBufferSize, c.connection.watchdogTimeoutSecs,
    c.dispatch.workerThreads, c.dispatch.keepAliveSecs, c.dispatch.queueWarningThreshold,
    c.dispatch.shutdownGraceSecs, c.whitelist.refreshMinutes]

/-- Why settings were not saved. -/
inductive SaveError where
  | config (e : ConfigError)
  /-- A word is too great for a TOML integer. -/
  | outOfRange
deriving DecidableEq

/-- The text of the file for some settings. -/
def Config.toFile? (c : Config) : Except SaveError String :=
  match c.check? with
  | some e => .error (.config e)
  | none =>
    if c.words.all fun n => (n.toNat : Int) ≤ Int64.maxValue.toInt then .ok c.toToml.write
    else .error .outOfRange

/-! ## Places -/

/-- An environment: the variables that are set. -/
abbrev Environment := List (String × String)

/-- A path under a directory; an absolute path stands for itself. -/
def joinPath (dir path : String) : String :=
  if Text.startsWith "/" path then path
  else if dir = "" ∨ Text.endsWith "/" dir then dir ++ path
  else dir ++ "/" ++ path

/-- The directory of the settings: the one that is asked for, or a directory of its own under the
user's directory for settings. -/
def configDir? (env : Environment) : Except ConfigError String :=
  match env.lookup "GERRIT_EVENTS_CONFIG_DIR" with
  | some dir => .ok dir
  | none =>
    match (env.lookup "XDG_CONFIG_HOME").filter (· ≠ ""), env.lookup "HOME" with
    | some xdg, _ => .ok (joinPath xdg "gerrit-events")
    | none, some home => .ok (joinPath (joinPath home ".config") "gerrit-events")
    | none, none => .error (.io "HOME environment variable not set")

/-- The path of the settings file. -/
def configPath? (env : Environment) : Except ConfigError String :=
  (configDir? env).map (joinPath · "config.toml")

end ReviewStream
