import FilterWatch.Live.Run

/-!
# The command line

Checks domains, or reports whether the resolvers are reachable. Reports go to the standard output, everything else
to the standard error.
-/

namespace FilterWatch

/-- Carries out an invocation, and prints what came of it. -/
def execute (i : Cli.Invocation) : IO UInt32 := do
  let config := i.options.toConfig
  let checker := Checker.build config none
  if i.options.verbose then
    for r in checker.resolvers do
      IO.eprintln ("using resolver " ++ r.describe)
  let report ← Live.perform config.protocol checker i.command
  IO.print report.text
  return .ofNat report.exitCode

end FilterWatch

def main (args : List String) : IO UInt32 := do
  match FilterWatch.Cli.parse args with
  | .ok i => FilterWatch.execute i
  | .error e =>
    IO.eprintln ("error: " ++ e.message)
    return .ofNat FilterWatch.Cli.failureCode
