import AssetSeed.Program
import AssetSeed.Recipe.Stamp
import AssetSeed.Shell.Host
import Std.Time.DateTime.Timestamp

/-!
# The command line

The program runs on a disk in memory that holds the files which the call names. What it changes
there is written back. It reaches no server, and starts no programs outside that disk.

## Main definitions

* `main` — the program.
-/

namespace AssetSeed.Main

/-- The disk with the directory of a path. -/
def supplyDir (disk : Disk) (path : Path) : Disk :=
  (disk.createDirs path).toOption.getD disk

/-- The disk with a file, in directories that are made if they are missing. -/
def supply (disk : Disk) (path : Path) (content : Bytes) : Disk :=
  ((supplyDir disk path.parent).write path content).toOption.getD disk

/-- The absolute path of a place. -/
def pathOf (place : List String) : Path :=
  ⟨"/" ++ "/".intercalate place⟩

/-- The files of variables in a directory and above it, where the directory is given from the inside
out. -/
def variableFiles : (inside : List String) → List Path
  | [] => [pathOf [Environment.fileName]]
  | name :: above =>
    pathOf ((name :: above).reverse ++ [Environment.fileName]) :: variableFiles above

/-- Adds a file to a disk if there is one that can be read. -/
def fetch (disk : Disk) (path : Path) : IO Disk := do
  try
    return supply disk path (← IO.FS.readBinFile path.text).toList
  catch _ => return disk

/-- The files that a change of the disk made or changed. -/
def changes (before after : FileTree) : List (Path × Bytes) :=
  after.files.filterMap fun (place, found) =>
    let old? := match before.get? place with
      | some (.file old) => some old.content
      | _ => none
    if old? = some found.content then none else some (pathOf place, found.content)

/-- An empty disk, seen from the directory in which the program is called. Temporary directories can
be made on it. -/
def emptyDisk : IO Disk := do
  let here := Path.mk (← IO.currentDir).toString
  let disk := supplyDir { tree := .empty, current := here.steps.filter (!·.isEmpty) } here
  return supplyDir disk Fixtures.stagingDir.parent

/-- The variables of the surroundings that a call depends on. -/
def readEnvironment : IO Environment := do
  let mut entries := []
  for name in CommandLine.variableNames ++ ["PATH", "HOME"] do
    if let some value ← IO.getEnv name then
      entries := entries ++ [(name, value)]
  return { entries }

def readSetting (arguments : List String) : IO Setting := do
  let now ← Std.Time.Timestamp.now
  return {
    arguments
    env := ← readEnvironment
    buildTime := Recipe.stamp now.toSecondsSinceUnixEpoch.val.toNat
    palette := .ofSeed (UInt64.ofNat now.toNanosecondsSinceUnixEpoch.val.toNat)
    patience := 1000000 }

/-- The disk that a task needs. -/
def gather (task : CommandLine.Task) (disk : Disk) : IO Disk := do
  let disk ← (Program.sources task).foldlM fetch disk
  return (Program.targets task).foldl supplyDir disk

end AssetSeed.Main

open AssetSeed AssetSeed.Main in
def main (arguments : List String) : IO UInt32 := do
  let setting ← readSetting arguments
  let disk ← emptyDisk
  let disk ← (variableFiles disk.current.reverse).foldlM fetch disk
  let disk ← match Program.parse setting disk with
    | .ok call => gather call.task disk
    | .error _ => pure disk
  let host := Shell.host ((setting.env.ofDisk? disk).getD setting.env)
  let (code, (_, after)) := (Program.run setting).run (Responder.both noServer host) ((), disk)
  try
    for (path, content) in changes disk.tree after.tree do
      IO.FS.writeBinFile path.text ⟨content.toArray⟩
    return UInt32.ofNat code
  catch _ => return UInt32.ofNat Program.failed
