import HostServices.Launch.Launcher

/-!
# The command line

`main` collects the arguments and the variables that a launch looks at, and writes what the launch
reports.
-/

namespace HostServices

def launchVariables : List String :=
  ["PATH", "RUST_LOG", "VMPRIM_TRACE_JSON", "VMPRIM_SA_RESTART", "VMPRIM_DISPATCH_THREAD"]

def readVariables : IO (List (String × String)) :=
  launchVariables.filterMapM fun name => do
    return (← IO.getEnv name).map fun value => (name, Text.toOctets value)

end HostServices

/-- Launches a command and ends with its exit code. -/
def main (arguments : List String) : IO UInt32 := do
  let invocation : HostServices.Launch.Invocation :=
    { arguments := arguments.map HostServices.Text.toOctets
      bindings := ← HostServices.readVariables
      childrenForgotten := false }
  let report := HostServices.Launch.launch invocation
  for line in report.lines invocation.logsAsData do
    IO.println line
  IO.eprint report.errors
  return UInt32.ofNat (report.exitCode.getD 1)
