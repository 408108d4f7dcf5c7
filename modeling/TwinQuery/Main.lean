/-
# The program

Reads the files that the default settings name and the time into a workspace,
runs the command line on it, prints, and writes back what the run changed.

Key definitions: `main`.
-/
import Std.Time.DateTime.Timestamp
import TwinQuery.CommandLine.Run

namespace TwinQuery

/-- The files that a run with the default settings reads or writes. -/
def watchedPaths : List Path := [Settings.defaults.mappingPath, Settings.defaults.statePath]

/-- The present time in universal time. -/
def clockNow : IO Stamp := do
  let now ← Std.Time.Timestamp.now
  return Stamp.ofParts ⟨1970, 1, 1⟩ (now.toNanosecondsSinceUnixEpoch.val / 1000) (some 0)

/-- The content of a file, if it can be read. -/
def readContent? (p : Path) : IO (Option Content) := do
  try
    let bytes ← IO.FS.readBinFile (Text.toString p.display)
    return some (.ofBytes (bytes.toList.map UInt8.toNat))
  catch _ => return none

/-- The workspace with the files of the given paths. -/
def readWorkspace (paths : List Path) : IO Workspace := do
  let mut w : Workspace := ⟨[], ← clockNow⟩
  for p in paths do
    if let some content ← readContent? p then
      w := w.apply (.put p (.file content))
  return w

/-- Writes the files that are not the same in the two workspaces. -/
def writeChanges (before after : Workspace) (paths : List Path) : IO Unit := do
  for p in paths do
    if let some t := after.storedText? p then
      if before.storedText? p != some t then
        IO.FS.createDirAll (Text.toString p.parent.display)
        IO.FS.writeFile (Text.toString p.display) (Text.toString t)

end TwinQuery

open TwinQuery in
/-- The command line. -/
def main (arguments : List String) : IO UInt32 := do
  let before ← readWorkspace watchedPaths
  let (run, after) := runCommandLine before none (arguments.map Text.ofString)
  writeChanges before after watchedPaths
  IO.print (Text.toString run.printed)
  match run.ending with
  | .exit status => return status.toUInt32
  | .fault f =>
    IO.eprintln (Text.toString f.message)
    return 1
