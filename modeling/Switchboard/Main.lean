import Switchboard.Demo

/-!
# The demo's command line

Reads the arguments and the environment, runs the demo and prints what it says.
-/

namespace Switchboard.Demo

/-- The usage of the demo. -/
def usage : String :=
  "Usage: switchboard [--calls N] [--cancel-after-ms N] [--workers-delay-ms N] " ++
    "[--report-invalid-methods]"

/-- Reads the environment variables that the demo knows. -/
def readEnv : IO (List (String × String)) := do
  let names := ["CALLS", "CANCEL_AFTER_MS", "WORKERS_DELAY_MS", "REPORT_INVALID_METHODS"]
  let values ← names.mapM fun name => do
    let value? ← IO.getEnv name
    pure (value?.map fun value => (name, value))
  pure (values.filterMap id)

end Switchboard.Demo

open Switchboard.Demo in
/-- The demo. -/
def main (args : List String) : IO UInt32 := do
  let env ← readEnv
  match Request.parse args (fun name => env.lookup name) with
  | .show =>
    IO.println usage
    pure 0
  | .invalid reason =>
    IO.eprintln ("error: " ++ reason)
    IO.eprintln usage
    pure 2
  | .run options =>
    for line in (run options).lines do
      IO.println line
    pure 0
