import LedgerFlow.CommandLine

/-!
# The program

Runs one command line.  This build carries no network: every request to a node fails, so commands
that call one end with that error.
-/

namespace LedgerFlow
namespace Program

/-- The variables that settings come from. -/
def variableNames : List String :=
  ["RPC_URL", "NETWORK_PASSPHRASE", "FEE", "AUTH_HORIZON", "POLL_INTERVAL", "POLL_ATTEMPTS",
    "TIMEOUT", "MAX_RETRIES", "BACKOFF", "LOG_LEVEL", "USER_AGENT", "SECRET_KEY"].map
    fun name => "SOROBAN_" ++ name

/-- A host whose every request fails and whose clock stands still. -/
def offline : CommandLine.Host Unit Float where
  carrier := {
    post := fun _ w => (.failed "ConnectError" "no network", w)
    sleep := fun _ w => w
    jitter := fun w => (0.5, w) }
  now := fun _ => 0.0
  sleep := fun _ w => w

/-- The variables that are set. -/
def environment : IO Environment :=
  variableNames.filterMapM fun name => do
    return (← IO.getEnv name).map fun value => (name, value)

/-- Runs a command line and answers with its exit code. -/
def run (words : List String) : IO UInt32 := do
  let env ← environment
  let input ← if CommandLine.readsInput env words then (← IO.getStdin).readToEnd else pure ""
  let (report, session) := CommandLine.runWords offline env input words { world := () }
  for r in session.log do
    IO.eprintln (r.level.name ++ ": " ++ r.message)
  IO.print report.out
  IO.eprint report.err
  match report.escaped with
  | some fault => IO.eprintln (fault.kind ++ ": " ++ fault.message)
  | none => pure ()
  return UInt32.ofNat report.exit

end Program
end LedgerFlow

/-- The entry of the program. -/
def main (words : List String) : IO UInt32 := LedgerFlow.Program.run words
