import SearchBox.Service.CommandLine

/-!
This module contains the program: it hands its arguments and environment to the command line, and
prints what comes of them.
-/

namespace SearchBox.CommandLine

def settingNames : List String :=
  ["AML_SEARCH_MATCH_CASE", "AML_SEARCH_MATCH_WHOLE_WORD", "AML_SEARCH_LOG_LEVEL",
    "AML_SEARCH_SERVER_NAME"]

def runInProcess (arguments : List String) : IO UInt32 := do
  let values ← settingNames.mapM fun name => do
    return (← IO.getEnv name).map (name, ·)
  match run (values.filterMap id) arguments with
  | .ok result =>
    IO.print result.stdout
    IO.eprint result.stderr
    return result.exit.toUInt32
  | .error faults =>
    IO.eprintln (FieldFaults.message faults)
    return 1

end SearchBox.CommandLine

def main (arguments : List String) : IO UInt32 :=
  SearchBox.CommandLine.runInProcess arguments
