import Headroom.Cli.Arguments

/-!
# Help pages
-/

namespace Headroom.HelpPage

/-- The options that every command has. -/
def commonOptions (pad : String) : String :=
  "      --json-logs  " ++ pad ++ "Emit logs as JSON lines\n" ++
  "  -h, --help       " ++ pad ++ "Print help\n"

/-- The text of a page. -/
def text : HelpPage → String
  | program =>
    "Adaptive concurrency pool tools\n\n" ++
    "Usage: autopool [OPTIONS] <COMMAND>\n\n" ++
    "Commands:\n" ++
    "  status    Sample this host for a while and print its load status as JSON\n" ++
    "  simulate  Run synthetic sleeping tasks through an autoscaled pool\n" ++
    "  config    Print the effective configuration as TOML\n" ++
    "  help      Print this message or the help of the given subcommand(s)\n\n" ++
    "Options:\n" ++ commonOptions ""
  | status =>
    "Sample this host for a while and print its load status as JSON\n\n" ++
    "Usage: autopool status [OPTIONS]\n\n" ++
    "Options:\n" ++
    "      --secs <SECS>      Seconds to sample before reporting [default: 5]\n" ++
    "      --config <CONFIG>  Path to an autopool.toml\n" ++ commonOptions "      "
  | simulate =>
    "Run synthetic sleeping tasks through an autoscaled pool\n\n" ++
    "Usage: autopool simulate [OPTIONS]\n\n" ++
    "Options:\n" ++
    "      --tasks <TASKS>              Number of tasks to run [default: 100]\n" ++
    "      --task-millis <TASK_MILLIS>  Duration of each task in milliseconds [default: 500]\n" ++
    "      --config <CONFIG>            Path to an autopool.toml\n" ++
    commonOptions "                "
  | config =>
    "Print the effective configuration as TOML\n\n" ++
    "Usage: autopool config [OPTIONS]\n\n" ++
    "Options:\n" ++
    "      --config <CONFIG>  Path to an autopool.toml\n" ++ commonOptions "      "
  | help =>
    "Print this message or the help of the given subcommand(s)\n\n" ++
    "Usage: autopool help [COMMAND]...\n\n" ++
    "Arguments:\n" ++
    "  [COMMAND]...  Print help for the subcommand(s)\n"

end Headroom.HelpPage
