import Headroom.Cli.Execute
import Headroom.Cli.Help

/-!
# The program

Reads the command line and the configuration file, and prints what the command gives. A usage error
ends with code 2, a failure with code 1 and its text on the standard error stream.
-/

namespace Headroom

/-- The configuration in a file. -/
def readConfigFile (path : String) : IO (Except ConfigError Config) := do
  try
    return Config.ofBytes (← IO.FS.readBinFile path)
  catch
    | .noFileOrDirectory .. => return Config.ofMissingFile
    | e => return .error (.unreadable (toString e))

/-- Runs the program and gives its exit code. -/
def runProgram (words : List String) : IO UInt32 := do
  match CommandLine.parse words with
  | .error (.help page) =>
    IO.print page.text
    return 0
  | .error .usage =>
    IO.eprintln "error: unexpected command line\n\nFor more information, try '--help'."
    return 2
  | .ok line =>
    let file ←
      match line.command.configPath? with
      | some path => readConfigFile path
      | none => pure Config.ofMissingFile
    match line.command.run file with
    | .ok output =>
      IO.print output.render
      return 0
    | .error message =>
      IO.eprintln ("Error: " ++ message)
      return 1

end Headroom

/-- The entry of the executable. -/
def main (words : List String) : IO UInt32 := Headroom.runProgram words
