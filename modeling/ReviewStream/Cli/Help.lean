import ReviewStream.Cli.Request

/-!
# Help texts

* `helpText`: the help on one command, or on all of them.
-/

namespace ReviewStream.Cli

/-- Two columns, the first one as wide as its widest cell. -/
def columns (rows : List (String × String)) : String :=
  let width := (rows.map (·.1.length)).foldl Nat.max 0
  String.join (rows.map fun (left, right) =>
    "  " ++ left ++ String.ofList (List.replicate (width - left.length) ' ') ++ "  " ++ right
      ++ "\n")

/-- What a command does. -/
def CommandName.summary : CommandName → String
  | .stream => "Connect to the server and print events until interrupted"
  | .checkConfig => "Load and validate the configuration, then print a summary"
  | .query => "Query changes and print each one as a JSON line"
  | .review => "Comment and vote on a patch set"

/-- The arguments of a command, each with its description. -/
def CommandName.argumentRows : CommandName → List (String × String)
  | .stream | .checkConfig => []
  | .query => [("<QUERY>", "Gerrit query, e.g. \"status:open project:tools\"")]
  | .review => [("<CHANGE>", ""), ("<PATCH_SET>", "")]

/-- The options of a command, each with its description. -/
def CommandName.optionRows (c : CommandName) : List (String × String) :=
  let config := ("-c, --config <CONFIG>",
    "Configuration file (default: ~/.config/gerrit-events/config.toml)")
  let own := match c with
    | .stream | .checkConfig => []
    | .query =>
      [("    --current-patch-set", "Include the current patch set"),
        ("    --patch-sets", "Include every patch set")]
    | .review =>
      [("-m, --message <MESSAGE>", "Review message"),
        ("-l, --label <LABELS>", "Vote as Label=value, may be repeated")]
  config :: own ++ [("-h, --help", "Print help")]

/-- The help on one command. -/
def CommandName.help (c : CommandName) : String :=
  let arguments := c.argumentRows
  let usage := "Usage: gerrit-events " ++ c.text ++ " [OPTIONS]"
    ++ String.join (arguments.map fun (name, _) => " " ++ name)
  c.summary ++ "\n\n" ++ usage ++ "\n\n"
    ++ (if arguments.isEmpty then "" else "Arguments:\n" ++ columns arguments ++ "\n")
    ++ "Options:\n" ++ columns c.optionRows

/-- The help on all commands. -/
def overview : String :=
  let commands := CommandName.all.map (fun c => (c.text, c.summary))
    ++ [("help", "Print this message or the help of the given subcommand(s)")]
  "Stream Gerrit review events as JSON lines\n\nUsage: gerrit-events <COMMAND>\n\nCommands:\n"
    ++ columns commands ++ "\nOptions:\n" ++ columns [("-h, --help", "Print help")]

/-- The help on a command, or on all of them. -/
def helpText : Option CommandName → String
  | some c => c.help
  | none => overview

end ReviewStream.Cli
