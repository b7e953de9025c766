import ChainClaim.CommandLine.Run

/-!
# The command-line program

Reads standard input only where it is asked for, prints what the command gives, and reports
failures on standard error.
-/

open ChainClaim.CommandLine

def main (arguments : List String) : IO UInt32 := do
  let input ← if wantsInput arguments then (← IO.getStdin).readToEnd else pure ""
  let outcome := run arguments input
  match outcome with
  | .usage => IO.eprintln "usage: [-n NETWORK] [--max-size BYTES] [-v] COMMAND OPERAND..."
  | .printed text => IO.print text
  | .failed report => IO.eprint report
  return UInt32.ofNat outcome.exitCode
