import AssetSeed.Files.Disk

/-!
# Snapshots

A snapshot is a dump of the database. Beside it there may be an archive of its media.

## Main definitions

* `Snapshot.isDumpName` — whether a file is a dump, by its name.
* `Snapshot.latest?` — the dump among entries that was changed last.
* `Snapshot.select?` — the snapshot to restore.
* `Snapshot.mediaArchive` — the archive that belongs to a snapshot.
-/

namespace AssetSeed.Snapshot

open Text

def mediaSuffix : String :=
  ".media.tar.gz"

def isDumpName (name : String) : Bool :=
  endsWith ".gz".toList name.toList && !endsWith mediaSuffix.toList name.toList

/-- The dump of that name in a directory, with the time when it was changed. A link to a file counts
as the file. -/
def dump? (disk : Disk) (dir : Path) (name : String) : Option (String × Int) :=
  if isDumpName name then
    (disk.file (dir.join name)).toOption.map fun held => (name, held.modified)
  else none

/-- Whether a dump counts as later than another one: by time, and by name if the times are equal. -/
def isLater (a b : String × Int) : Bool :=
  b.2 < a.2 || (a.2 = b.2 && b.1 < a.1)

def latest? : List (String × Int) → Option (String × Int)
  | [] => none
  | dump :: rest =>
    match latest? rest with
    | none => some dump
    | some other => if isLater dump other then some dump else some other

/-- The dump in a directory that was changed last. -/
def inDir? (disk : Disk) (dir : Path) : Option Path :=
  match disk.entries dir with
  | .error _ => none
  | .ok entries =>
    let dumps := entries.filterMap fun entry => dump? disk dir entry.1
    (latest? dumps).map fun dump => dir.join dump.1

/-- The snapshot to restore: the one asked for if it is a file, else the latest in the directory. -/
def select? (disk : Disk) (asked : Option Path) (dir : Path) : Option Path :=
  match asked.filter disk.isFile with
  | some path => some path
  | none => inDir? disk dir

def mediaArchive (snapshot : Path) : Path :=
  ⟨snapshot.withoutExtension.text ++ mediaSuffix⟩

end AssetSeed.Snapshot
