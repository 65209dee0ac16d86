import ContingentClaims.Command.Run
import ContingentClaims.Ids.Random

/-!
# The command line

Reads the files that the arguments name, runs the command, and passes on its
output, report and exit code.
-/

namespace ContingentClaims

/-- The text of a file, if it can be read. -/
def readText? (path : String) : IO (Option String) :=
  try
    return some (<- IO.FS.readFile path)
  catch _ =>
    return none

/-- A seed for random identifiers. -/
def freshSeed : IO UInt64 := do
  let bytes <- IO.getRandomBytes 8
  return bytes.foldl (fun seed byte => seed * 256 + byte.toUInt64) 0

/-- The contents of the files that the arguments name. -/
def readFiles (arguments : List String) : IO (List (String × Option String)) :=
  match Command.parse arguments with
  | .ok invocation => invocation.task.files.mapM fun path => do
      return (path, <- readText? path)
  | .error _ => return []

end ContingentClaims

/-- Run the command line: read the files that it names, print what the run leaves
behind, and hand over its exit code. -/
def main (arguments : List String) : IO UInt32 := do
  let files <- ContingentClaims.readFiles arguments
  let seed <- ContingentClaims.freshSeed
  let environment : ContingentClaims.Command.Environment :=
    { fileText := fun path => (files.lookup path).join
      randomIds := ContingentClaims.RandomIds.source seed }
  let outcome := ContingentClaims.Command.runArguments environment arguments
  IO.print outcome.output
  IO.eprint outcome.report.text
  return outcome.exitCode.toUInt32
