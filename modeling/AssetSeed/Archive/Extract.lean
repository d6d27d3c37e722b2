import AssetSeed.Archive.Gzip
import AssetSeed.Archive.Tar
import AssetSeed.Files.Disk

/-!
# Extraction of archives

Members are extracted into a directory, the root, in the order of the archive; a later one takes the
place of an earlier one. Those with the flag of a directory come last, so that the directories of
files that were made on the way are already there. A member whose path has a step back in it is
passed over, and one that would be made outside the root, behind a symbolic link, is refused.

## Main definitions

* `Extracting` — changes of a disk up to the first that fails.
* `Extracting.member` — extracts a member.
* `Disk.extractInto` — extracts a compressed archive into a directory.
-/

namespace AssetSeed

open Archive

/-- Changes of a disk up to the first that fails. What was done before it stays. -/
abbrev Extracting := ExceptT FileError (StateM Disk)

namespace Extracting

/-- The steps of a path of an archive, unless there is a step back among them. -/
def stepsOf? (path : Bytes) : Option (List String) :=
  let steps := (Text.split (· = '/') (Text.utf8Lossy path).toList).filter (!Path.isIdle ·)
  if steps.contains ['.', '.'] then none else some (steps.map String.ofList)

/-- The absolute path of steps. -/
def pathOf (steps : List String) : Path :=
  ⟨"/" ++ "/".intercalate steps⟩

/-- Takes over a change, or its failure. -/
def change (apply : Disk → Except FileError Disk) : Extracting Unit := do
  match apply (← get) with
  | .ok disk => set disk
  | .error e => throw e

def refused : FileError :=
  .invalidContent "trying to unpack outside of destination path"

/-- Fails unless a path leads to a place inside the root. -/
def checkInside (root : List String) (path : Path) : Extracting Unit := do
  match (← get).place path with
  | .ok place => if !root.isPrefixOf place then throw refused
  | .error e => throw e

/-- Makes those directories on the way of `steps` behind `before` that are missing. -/
def makeParents (root : List String) : (before steps : List String) → Extracting Unit
  | _, [] => pure ()
  | before, step :: rest => do
    let next := before ++ [step]
    if ((← get).named? (pathOf next)).isNone then
      checkInside root (pathOf before)
      change fun disk => disk.createDirs (pathOf next)
    makeParents root next rest

/-- What is at a path, without following a link, and its place. -/
def occupant (path : Path) : Extracting (List String × Option FileTree) := do
  let disk ← get
  match disk.slot path with
  | .ok place => return (place, disk.tree.get? place)
  | .error e => throw e

/-- Puts a file or a link at a path, in place of one that is there. -/
def putAt (path : Path) (new : FileTree) : Extracting Unit := do
  match ← occupant path with
  | (_, some (.dir _)) => throw .isADirectory
  | (place, _) => modify fun disk => disk.put place new

/-- Makes a directory, if it is not there. -/
def directory (path : Path) : Extracting Unit := do
  match ← occupant path with
  | (_, some (.dir _)) => pure ()
  | (_, some _) => throw .alreadyExists
  | (place, none) => modify fun disk => disk.put place .empty

def brokenMember : FileError :=
  .invalidContent "failed to read entire member"

/-- Makes a file, and fails if its content is not all there. -/
def file (path : Path) (member : Tar.Member) : Extracting Unit := do
  putAt path (.file { content := member.content, executable := member.executable })
  if !member.complete then throw brokenMember

/-- The target of a link as a text. -/
def targetOf (target : Option Bytes) : Extracting String :=
  match target with
  | none | some [] => throw .invalidInput
  | some bytes => pure (Text.utf8Lossy bytes)

/-- Makes a symbolic link. -/
def symbolicLink (path : Path) (target : String) : Extracting Unit := do
  match Disk.checked ⟨target⟩ with
  | .ok () => putAt path (.link target)
  | .error e => throw e

/-- Gives a file or a link another path as well. The path must be free, and what gets it must be
inside the root. -/
def hardLink (root : List String) (path : Path) (target : String) : Extracting Unit := do
  let source := (pathOf root).join target
  checkInside root source
  match (← get).named? source, ← occupant path with
  | some (.dir _), _ | none, _ => throw .permissionDenied
  | some _, (_, some _) => throw .alreadyExists
  | some held, (place, none) => modify fun disk => disk.put place held

/-- Extracts a member. -/
def member (root : List String) (member : Tar.Member) : Extracting Unit := do
  match stepsOf? member.path with
  | none | some [] => pure ()
  | some steps =>
    makeParents root root steps.dropLast
    checkInside root (pathOf (root ++ steps.dropLast))
    let path := pathOf (root ++ steps)
    match member.kind with
    | .dir | .slashDir => directory path
    | .file => file path member
    | .hardLink target => hardLink root path (← targetOf target)
    | .symbolicLink target => symbolicLink path (← targetOf target)
    | .note => pure ()

/-- Whether a path comes before another one from the end of the order of bytes. -/
def laterPath (a b : Tar.Member) : Bool :=
  !a.path.lex b.path

def brokenArchive : FileError :=
  .invalidContent "failed to iterate over archive"

/-- Extracts what could be read of an archive, and fails if that is not all of it. -/
def contents (root : List String) (contents : Tar.Contents) : Extracting Unit := do
  let isDir (member : Tar.Member) : Bool := member.kind = .dir
  (contents.members.filter (!isDir ·)).forM (member root)
  if !contents.sound then throw brokenArchive
  ((contents.members.filter isDir).mergeSort laterPath).forM (member root)

end Extracting

/-- Extracts the compressed archive in `bytes` into a directory. What was extracted before a
failure stays. -/
def Disk.extractInto (disk : Disk) (bytes : Bytes) (target : Path) :
    Except FileError (Option FileError × Disk) := do
  let root ← disk.place target
  let decoded := Gzip.decode bytes
  let (result, disk) := (Extracting.contents root (Tar.read decoded.bytes decoded.sound)).run disk
  match result with
  | .ok () => return (none, disk)
  | .error e => return (some e, disk)

end AssetSeed
