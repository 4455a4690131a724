import ReviewStream.Cli.Help
import ReviewStream.Command.Review
import ReviewStream.Command.Runner
import ReviewStream.Config.File
import ReviewStream.Json.Writer
import ReviewStream.Ssh.Session

/-!
# What a command reports

A command runs in surroundings that are given: files, variables and the ssh client.  It reports what
it writes, its exit code and the calls of the client that it makes.

* `Surroundings`, `Report`: what a command is given, and what comes of it.
* `checkConfig`, `query`, `review`: the commands that come to an end by themselves.
-/

namespace ReviewStream.Cli

/-! ## Surroundings and reports -/

/-- What a command finds around it. -/
structure Surroundings where
  /-- What there is at each path. -/
  read : String → FileContent
  environment : Environment
  /-- The ssh client, if there is one on the search path. -/
  client : Option Ssh.Client
  /-- The path of a control socket by the name of the server and the number of the connect. -/
  controlPath : String → Nat → String

/-- What a command comes to. -/
structure Report where
  exit : Nat
  stdout : String
  stderr : String
  calls : List Ssh.Invocation

namespace Report

/-- A command that succeeds. -/
def success (stdout : String) (calls : List Ssh.Invocation) : Report := ⟨0, stdout, "", calls⟩

/-- A command that fails. -/
def failure (exit : Nat) (message : String) (calls : List Ssh.Invocation) : Report :=
  ⟨exit, "", message ++ "\n", calls⟩

/-- A command line that is not well formed. -/
def misuse : Report :=
  failure 2 "Usage: gerrit-events <COMMAND>\n\nFor more information, try '--help'." []

end Report

/-! ## Errors -/

/-- The exit code for an error: a wrong setup is told from all else. -/
def exitCode : Failure → Nat
  | .config _ => 2
  | .transport (.clientUnavailable _) => 2
  | _ => 1

/-- An error with its causes, the outermost one first. -/
def chain (parts : List String) : String := Text.joined ": " parts

/-- A command that fails by an error in some context. -/
def failed (context : List String) (e : Failure) (calls : List Ssh.Invocation) : Report :=
  .failure (exitCode e) (chain (context ++ [e.message, e.cause])) calls

/-- The error of a search path without an ssh client. -/
def noClient : Failure := .transport (.clientUnavailable "cannot find binary path")

/-- Loads the settings from a file that is named, or from the usual place. -/
def load (s : Surroundings) (path : Option String) : Except ConfigError Config := do
  let path ← match path with
    | some path => pure path
    | none => configPath? s.environment
  Config.ofFile? path (s.read path)

/-- The world in which the transport of a command runs. -/
def Surroundings.world (s : Surroundings) : Ssh.World :=
  { client := s.client, hasDisplay := (s.environment.lookup "DISPLAY").isSome,
    controlPath := s.controlPath, places := ⟨[""], []⟩, connects := 0, sessions := [], up := [],
    calls := [] }

/-! ## Commands -/

/-- The lines of a summary, whose values stand in one column. -/
def summary (rows : List (String × String)) : String :=
  String.join (rows.map fun (name, value) =>
    name ++ ":" ++ String.ofList (List.replicate (11 - name.length) ' ') ++ value ++ "\n")

/-- The summary of valid settings. -/
def describe (c : Config) : String :=
  let g := c.connection
  let word (n : UInt64) := Text.natText n.toNat
  let proxy := match g.proxy with
    | some proxy => [("Proxy", proxy)]
    | none => []
  let watchdog := match g.watchdogTimeout? with
    | some secs =>
      word secs ++ "s, " ++ Text.natText g.watchdogWindows.length ++ " exempt window(s)"
    | none => "disabled"
  let whitelist := match c.whitelist.location with
    | some location => location ++ " (every " ++ word (c.whitelist.refreshSecs / 60) ++ " min)"
    | none => "none, all projects"
  "✓ Configuration is valid\n\n" ++ summary
    ([("Server", g.name ++ " (" ++ g.host ++ ":" ++ Text.natText g.port.toNat ++ ")"),
      ("User", g.username), ("Key file", g.privateKeyFile.getD "")] ++ proxy ++
     [("Watchdog", watchdog),
      ("Workers", word c.dispatch.workerThreads ++ " (idle timeout " ++ word c.dispatch.keepAlive
        ++ "s)"),
      ("Whitelist", whitelist)])

/-- Checks the settings and sums them up. -/
def checkConfig (s : Surroundings) (path : Option String) : Report :=
  match load s path with
  | .ok c => .success (describe c) []
  | .error e => failed ["Configuration check failed"] (.config e) []

/-- Runs a query and prints each change on a line. -/
def query (s : Surroundings) (path : Option String) (options : QueryOptions) (query : String) :
    Report :=
  match load s path with
  | .error e => failed ["Failed to load configuration"] (.config e) []
  | .ok c =>
    if s.client.isNone then failed [] noClient []
    else
      let (result, r, w) :=
        (QueryRunner.ofConfig c.connection).query Ssh.transport options query s.world
      let (_, w) := r.disconnect Ssh.transport w
      match result with
      | .ok changes => .success (String.join (changes.map (·.toText ++ "\n"))) w.calls
      | .error e => failed [] e w.calls

/-- Posts a review. -/
def review (s : Surroundings) (path message : Option String) (labels : List String)
    (change patchSet : UInt64) : Report :=
  match load s path with
  | .error e => failed ["Failed to load configuration"] (.config e) []
  | .ok c =>
    match labels.mapM Vote.read? with
    | .error e => .failure 1 e.message []
    | .ok votes =>
      if s.client.isNone then failed [] noClient []
      else
        let command := { ReviewCommand.ofPatchSet change patchSet with message, votes }
        let (result, w) :=
          (CommandRunner.mk c.connection).run Ssh.transport command.toText s.world
        match result with
        | .ok _ => .success "" w.calls
        | .error e =>
          let context := "Review of " ++ Text.natText change.toNat ++ ","
            ++ Text.natText patchSet.toNat ++ " failed"
          .failure 1 (chain [context, e.message]) w.calls

end ReviewStream.Cli
