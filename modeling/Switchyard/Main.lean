import Switchyard.Command.Inspector

/-!
# The program

Reads the settings file that the arguments ask for, runs the inspector, and writes what it says.
-/

open Switchyard

/-- The bytes of a file, if it can be read. -/
def fileContents? (path : String) : IO (Option ByteArray) := do
  try
    return some (← IO.FS.readBinFile path)
  catch _ =>
    return none

def main (args : List String) : IO UInt32 := do
  let inquiry := Arguments.read none args
  let contents ← match Inspector.fileOf inquiry with
    | some path => fileContents? path
    | none => pure none
  let written := Inspector.run inquiry contents
  IO.print written.out
  IO.eprint written.err
  return written.code.toUInt32
