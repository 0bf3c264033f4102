import RdfGateway.CommandLine.Run

/-!
# The command line

The files that a run names are read, the run is carried out, and what it leaves is written.
-/

namespace RdfGateway.CommandLine

/-- The content of a file. -/
def readFile (path : String) : IO (Except ReadFailure ByteArray) := do
  try
    return .ok (← IO.FS.readBinFile path)
  catch
    | .noFileOrDirectory .. => return .error .absent
    | .inappropriateType _ code _ =>
      return .error (if code = 21 then .directory else .throughFile)
    | error => return .error (.other (toString error))

end RdfGateway.CommandLine

open RdfGateway.CommandLine in
/-- Exits with the code of the run. -/
def main (arguments : List String) : IO UInt32 := do
  let mut read : List (String × Except RdfGateway.ReadFailure ByteArray) := []
  for path in filesOf arguments do
    read := (path, ← readFile path) :: read
  let contents := read
  let outcome := run (fun path => (contents.lookup path).getD (.error .absent)) arguments
  IO.print outcome.output
  IO.eprint outcome.errors
  return outcome.exitCode.toUInt32
