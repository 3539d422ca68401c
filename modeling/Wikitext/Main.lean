import Wikitext.Command.Run

/-!
# The command line
-/

open Wikitext

/-- The bytes of a file, if it can be read. -/
def readFile? (path : Text) : IO (Option Bytes) := do
  match ← (IO.FS.readBinFile (String.ofList path)).toBaseIO with
  | .ok bytes => return some bytes.toList
  | .error _ => return none

def main (args : List String) : IO UInt32 := do
  let report ← Command.runArguments readFile? (args.map String.toList)
  IO.print (String.ofList report.output)
  IO.eprint (String.ofList report.notes)
  if let some failure := report.failure then
    IO.eprintln ("Error: " ++ failure.message)
  return report.exitCode
