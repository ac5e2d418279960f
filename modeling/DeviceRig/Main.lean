import DeviceRig.Program.Basic

/-!
The command line. It gathers what the program meets, runs it at a rig without a device, and hands on
what it printed.
-/
namespace DeviceRig

partial def readToEnd (stream : IO.FS.Stream) (sofar : ByteArray) : IO ByteArray := do
  let piece ← stream.read 65536
  if piece.isEmpty then return sofar else readToEnd stream (sofar ++ piece)

def gatherVariables : IO (List (String × String)) := do
  let found ← Program.variableNames.mapM fun name => do
    return (← IO.getEnv name).map fun value => (name, value)
  return found.filterMap id

/-- The files of the rig: the batch that is asked for, if it can be read. -/
def gatherFiles (path? : Option String) : IO FileTree := do
  match path? with
  | none => return .bare
  | some path =>
    try return FileTree.bare.placeFile path (← IO.FS.readBinFile path).toList
    catch _ => return .bare

end DeviceRig

open DeviceRig in
def main (arguments : List String) : IO UInt32 := do
  let asked : Program.Surroundings := ⟨arguments, ← gatherVariables, [], .new .bare, []⟩
  let files ← gatherFiles asked.batchPath?
  let input ← if asked.readsInput then readToEnd (← IO.getStdin) .empty else pure .empty
  let run := Program.run { asked with input := input.toList, rig := .new files }
  IO.print run.printed
  if let some line := run.errorLine then IO.eprint line
  return run.code.toUInt32
