import AssetSeed.Files.Disk

/-!
# Copies

## Main definitions

* `Disk.copyFile` — a file copied to a path.
* `Disk.copyUpTo` — the content of a directory copied entry by entry.
* `Disk.copyDir` — the content of a directory copied into another one.
-/

namespace AssetSeed.Disk

/-- Copies a file. The target is emptied before anything is read, so that a file copied onto itself
is left empty. -/
def copyFile (disk : Disk) (source target : Path) : Except FileError Disk := do
  match ← disk.find source with
  | .file held =>
    let emptied ← disk.write target []
    let place ← emptied.target target
    let content := if (disk.place source).toOption = some place then [] else held.content
    return emptied.put place (.file { content, executable := held.executable })
  | _ => .error .invalidInput

/-- Copies the entries of a directory, at most `fuel` levels deep. What has been copied before a
failure stays. A path that grows by a name at every level gets too long before the fuel is used
up. -/
def copyUpTo : (fuel : Nat) → (source target : Path) → EStateM FileError Disk Unit
  | 0, _, _ => throw .nameTooLong
  | fuel + 1, source, target => do
    whole (createDirs · target)
    (← MonadExcept.ofExcept ((← get).entries source)).forM fun (name, tree) =>
      if tree.isDir then copyUpTo fuel (source.join name) (target.join name)
      else whole (copyFile · (source.join name) (target.join name))

/-- Copies the content of a directory into another one, which is made if it is missing. -/
def copyDir (disk : Disk) (source target : Path) : Except FileError Disk :=
  match copyUpTo maxPath source target disk with
  | .ok _ disk => .ok disk
  | .error e _ => .error e

end AssetSeed.Disk
