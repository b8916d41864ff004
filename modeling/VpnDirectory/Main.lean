import VpnDirectory.Command.Report

/-!
# The program

Reads the files that the command line names and writes out the answer. A client counts as being at
universal time unless the command line says otherwise.
-/

namespace VpnDirectory

/-- What is written out for a command line that does not follow the rules. -/
def usage : String :=
  "usage: eipctl --eip-service FILE --secrets FILE [--geoip FILE] [--config FILE] " ++
    "[--timezone HOURS] [--verbose] (gateways | locations | profile | capabilities) [OPTION ...]"

/-- What reading a file gives. -/
def readPath (path : String) : IO (Except ReadFailure String) := do
  try
    return .ok (← IO.FS.readFile path)
  catch
    | .noFileOrDirectory .. => return .error .missing
    | e => return .error (.other (toString e))

end VpnDirectory

open VpnDirectory in
/-- The program. -/
def main (args : List String) : IO UInt32 := do
  match Arguments.parse args with
  | none => do
    IO.eprintln usage
    return usageExitCode.toUInt32
  | some a => do
    let contents ← a.paths.mapM fun path => do
      return (path, ← readPath path)
    let outcome := a.run (fun path => (contents.lookup path).getD (.error .missing)) 0
    outcome.lines.forM IO.println
    outcome.ending.errorText.forM IO.eprintln
    return outcome.ending.exitCode.toUInt32
