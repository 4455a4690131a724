import ReviewStream.Cli.Stream

/-!
# The command line

Reads the settings file and the variables that a request may need, and writes its report.  No
program is started from here, so the commands that need an ssh client find none.
-/

namespace ReviewStream.Cli

/-- What there is at a path. -/
def contentAt (path : String) : IO FileContent := do
  try
    let bytes ← IO.FS.readBinFile path
    return .octets bytes.toList
  catch
    | .noFileOrDirectory .. => return .absent
    | _ => return .directory

/-- The variables among some that are set. -/
def variablesAmong (names : List String) : IO Environment :=
  names.filterMapM fun name => do
    return (← IO.getEnv name).map fun value => (name, value)

/-- The path of the settings file that a request names, or the usual one. -/
def settingsPath (env : Environment) (request : Request) : Option String :=
  let named := match request with
    | .stream path | .checkConfig path | .query path .. | .review path .. => path
    | .help _ => none
  named.or (configPath? env).toOption

/-- The report of a command line. -/
def reportOf (args : List String) : IO Report := do
  match Request.read? args with
    | none => return .misuse
    | some request =>
      let environment ← variablesAmong
        ["GERRIT_EVENTS_CONFIG_DIR", "XDG_CONFIG_HOME", "HOME", "DISPLAY"]
      let content ← match settingsPath environment request with
        | some path => contentAt path
        | none => pure .absent
      return run (fun _ => ⟨0, ⟨0, 0⟩⟩) 0
        { read := fun _ => content, environment, client := none,
          controlPath := fun name n => Ssh.controlPath "/tmp" name 0 n } request

end ReviewStream.Cli

/-- Runs the command line. -/
def main (args : List String) : IO UInt32 := do
  let report ← ReviewStream.Cli.reportOf args
  IO.print report.stdout
  (← IO.getStderr).putStr report.stderr
  return UInt32.ofNat report.exit
