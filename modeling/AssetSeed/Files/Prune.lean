import AssetSeed.Files.Disk

/-!
# Pruning

## Main definitions

* `Disk.pruneUpTo` — a directory rid of those below it that hold no file at any depth.
* `Disk.pruneDir` — the same, with the disk only if that succeeds.
-/

namespace AssetSeed.Disk

/-- Removes the directories below that of a path, at most `fuel` levels deep and from the inside
out, in which nothing is left, and tells whether nothing is left in the directory itself. What has
been removed before a failure stays removed. A path that grows by a name at every level gets too
long before the fuel is used up. -/
def pruneUpTo : (fuel : Nat) → Path → EStateM FileError Disk Bool
  | 0, _ => throw .nameTooLong
  | fuel + 1, path => do
    (← MonadExcept.ofExcept ((← get).entries path)).foldlM (fun empty (name, tree) => do
      if tree.isDir then
        if ← pruneUpTo fuel (path.join name) then
          whole (removeDir · (path.join name))
          return empty
      return false) true

/-- Prunes the directory of a path, and tells whether it has nothing left in it. -/
def pruneDir (disk : Disk) (path : Path) : Except FileError (Bool × Disk) :=
  match pruneUpTo maxPath path disk with
  | .ok empty disk => .ok (empty, disk)
  | .error e _ => .error e

end AssetSeed.Disk
