import ChannelRules.CommandLine
import ChannelRules.CommandLine.Options
import ChannelRules.Pattern.Machine

namespace ChannelRules.CommandLine

/-- The contents of a file, or nothing if it cannot be read. -/
def contents? (path : String) : IO (Option String) :=
  try
    return some (← IO.FS.readFile path)
  catch _ =>
    return none

end ChannelRules.CommandLine

open ChannelRules.CommandLine

def main (arguments : List String) : IO UInt32 := do
  match Options.ofArguments arguments with
  | .error failure =>
    IO.eprintln ("error: " ++ failure.message)
    return 2
  | .ok options =>
    let report := run (← contents? options.config) (← contents? options.schemas)
      (← contents? options.program)
    IO.print report.output
    IO.eprint report.errors
    return report.exit.toUInt32
