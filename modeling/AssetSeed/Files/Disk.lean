import AssetSeed.Files.Error
import AssetSeed.Files.Path
import AssetSeed.Files.Tree

/-!
# Disks

A disk is a file tree with a directory in it from which relative paths are seen. A path is followed
step by step; a symbolic link among the steps is exchanged for the steps of its own path. Where
temporary directories are made, and whether they can be, is up to the host that shows the disk.

## Main definitions

* `Disk` — a tree, the current directory, and the path of the next temporary directory.
* `Disk.follow` — the place to which steps lead.
* `Disk.place` — the place to which a path leads.
* `Disk.slot` — the place of the last name of a path, where a link is not followed.
* `Disk.read`, `Disk.readText`, `Disk.entries` — what is there.
* `Disk.write`, `Disk.makeDir`, `Disk.createDirs` — disks with more on them.
* `Disk.removeDir` — a disk without an empty directory.
* `Disk.makeScratch`, `Disk.discard` — a disk with a new temporary directory, and without it.
* `Disk.whole` — a change as a step that fails without a trace.
-/

namespace AssetSeed

/-- The path of the temporary directory on a disk for which no other one is given. -/
def Fixtures.stagingDir : Path :=
  ⟨"/tmp/netbox-preload-staged"⟩

structure Disk where
  tree : FileTree
  current : List String := []
  /-- What is given when a temporary directory is asked for: a path for a new one, or why there can
  be none. -/
  scratch : Except FileError Path := .ok Fixtures.stagingDir
deriving Repr, Inhabited

namespace Disk

/-- How many symbolic links are followed on the way of one path. -/
def maxLinks : Nat :=
  40

/-- The greatest length of a name, in bytes. -/
def maxName : Nat :=
  255

/-- The greatest length of a path, in bytes. -/
def maxPath : Nat :=
  4095

/-- The place at which a path starts that is seen from a place. -/
def startFrom (place : List String) (path : Path) : List String :=
  if path.isAbsolute then [] else place

/-- The place at which a path starts. -/
def start (disk : Disk) (path : Path) : List String :=
  startFrom disk.current path

/-- A place, and how many more links could have been followed on the way to it. -/
structure Arrival where
  place : List String
  links : Nat
deriving Repr, DecidableEq

/-- Follows steps up to the first symbolic link, from where `jump` goes on. Each step needs a
directory to start from. -/
def walk (tree : FileTree) (links : Nat)
    (jump : (place steps : List String) → Except FileError Arrival) :
    (place steps : List String) → Except FileError Arrival
  | place, [] => .ok ⟨place, links⟩
  | place, step :: rest =>
    match tree.get? place with
    | none => .error .notFound
    | some (.dir entries) =>
      if step = "" || step = "." then walk tree links jump place rest
      else if step = ".." then walk tree links jump place.dropLast rest
      else if maxName < step.utf8ByteSize then .error .nameTooLong
      else
        match Entries.find? entries step with
        | none => .error .notFound
        | some (.link target) => jump (startFrom place ⟨target⟩) (Path.steps ⟨target⟩ ++ rest)
        | some _ => walk tree links jump (place ++ [step]) rest
    | some _ => .error .notADirectory

/-- Follows steps from a place, through at most `links` symbolic links. -/
def follow (tree : FileTree) : (links : Nat) → (place steps : List String) →
    Except FileError Arrival
  | 0 => walk tree 0 fun _ _ => .error .tooManyLinks
  | links + 1 => walk tree (links + 1) (follow tree links)

/-- Whether a path can be followed at all. -/
def checked (path : Path) : Except FileError Unit :=
  if path.text.isEmpty then .error .notFound
  else if path.text.toList.contains '\x00' then .error .invalidInput
  else if maxPath < path.text.utf8ByteSize then .error .nameTooLong
  else .ok ()

/-- The place that a path leads to. The empty path leads nowhere. -/
def place (disk : Disk) (path : Path) : Except FileError (List String) := do
  checked path
  return (← follow disk.tree maxLinks (disk.start path) path.steps).place

def find (disk : Disk) (path : Path) : Except FileError FileTree := do
  let place ← disk.place path
  match disk.tree.get? place with
  | some tree => .ok tree
  | none => .error .notFound

def isFile (disk : Disk) (path : Path) : Bool :=
  match disk.find path with
  | .ok (.file _) => true
  | _ => false

def isDir (disk : Disk) (path : Path) : Bool :=
  match disk.find path with
  | .ok (.dir _) => true
  | _ => false

def exists? (disk : Disk) (path : Path) : Bool :=
  (disk.find path).isOk

def file (disk : Disk) (path : Path) : Except FileError File := do
  match ← disk.find path with
  | .file file => .ok file
  | .dir _ => .error .isADirectory
  | .link _ => .error .tooManyLinks

def read (disk : Disk) (path : Path) : Except FileError Bytes := do
  return (← disk.file path).content

def notText : FileError :=
  .invalidContent "stream did not contain valid UTF-8"

def readText (disk : Disk) (path : Path) : Except FileError String := do
  match Text.utf8Decode? (← disk.read path) with
  | some text => .ok text
  | none => .error notText

/-- The entries of a directory. -/
def entries (disk : Disk) (path : Path) : Except FileError Entries := do
  match ← disk.find path with
  | .dir entries => .ok entries
  | _ => .error .notADirectory

/-! ## Changes -/

/-- The disk with a tree at a place. -/
def put (disk : Disk) (place : List String) (tree : FileTree) : Disk :=
  { disk with tree := disk.tree.put place tree }

/-- The place of a name in the directory to which steps lead. -/
def slotOf (tree : FileTree) (place before : List String) (name : String) :
    Except FileError (List String) := do
  let parent := (← follow tree maxLinks place before).place
  match tree.get? parent with
  | some (.dir _) =>
    if maxName < name.utf8ByteSize then .error .nameTooLong else .ok (parent ++ [name])
  | some _ => .error .notADirectory
  | none => .error .notFound

/-- The place of the last name of a path. Its directory has to be there, and a link at that place is
not followed. A path that ends in a slash or a point can only be that of a directory. -/
def slot (disk : Disk) (path : Path) : Except FileError (List String) := do
  checked path
  match path.steps.reverse.dropWhile (· = "") with
  | [] => .error .isADirectory
  | name :: before =>
    let place ← slotOf disk.tree (disk.start path) before.reverse name
    if name = "." || name = ".." || path.steps.getLast? = some "" then .error .isADirectory
    else .ok place

/-- What is at the last name of a path, if anything is; a link is not followed. -/
def named? (disk : Disk) (path : Path) : Option FileTree :=
  (disk.slot path).toOption.bind disk.tree.get?

/-- The place at which a file is, or would be made, that is opened at a place. -/
def settle (tree : FileTree) : (links : Nat) → (place : List String) →
    Except FileError (List String)
  | links, place =>
    match tree.get? place with
    | some (.link target) =>
      match links with
      | 0 => .error .tooManyLinks
      | links + 1 => do
        let steps := Path.steps ⟨target⟩
        let next ← slotOf tree (startFrom place.dropLast ⟨target⟩) steps.dropLast
          (steps.getLast?.getD "")
        settle tree links next
    | _ => .ok place

/-- Where a file of that path is, or would be made in a directory that is there. -/
def target (disk : Disk) (path : Path) : Except FileError (List String) := do
  settle disk.tree maxLinks (← disk.slot path)

def write (disk : Disk) (path : Path) (content : Bytes) : Except FileError Disk := do
  let place ← disk.target path
  match disk.tree.get? place with
  | some (.dir _) => .error .isADirectory
  | some (.file old) => .ok (disk.put place (.file { old with content }))
  | some (.link _) => .error .tooManyLinks
  | none => .ok (disk.put place (.file { content }))

/-- Makes a directory in one that is there. Slashes at the end of the path do not count. -/
def makeDir (disk : Disk) (path : Path) : Except FileError Disk := do
  checked path
  match path.steps.reverse.dropWhile (· = "") with
  | [] => .error .alreadyExists
  | name :: before =>
    let place ← slotOf disk.tree (disk.start path) before.reverse name
    if name = "." || name = ".." || (disk.tree.get? place).isSome then .error .alreadyExists
    else .ok (disk.put place .empty)

/-- Makes a directory, and before it those above it that are missing, at most `fuel` of them. What
is a directory already may stay one. -/
def createUpTo : (fuel : Nat) → Disk → Path → Except FileError Disk
  | 0, disk, _ => .ok disk
  | fuel + 1, disk, path =>
    let settled (disk : Disk) (result : Except FileError Disk) : Except FileError Disk :=
      match result with
      | .ok disk => .ok disk
      | .error e => if disk.isDir path then .ok disk else .error e
    if path.text.isEmpty then .ok disk
    else
      match disk.makeDir path with
      | .error .notFound => do
        let disk ← createUpTo fuel disk path.parent
        settled disk (disk.makeDir path)
      | result => settled disk result

/-- Makes the directory of a path and those above it. -/
def createDirs (disk : Disk) (path : Path) : Except FileError Disk :=
  createUpTo (path.steps.length + 1) disk path

/-- Removes the directory of a path, if it is empty. -/
def removeDir (disk : Disk) (path : Path) : Except FileError Disk := do
  let place ← disk.slot path
  match disk.tree.get? place with
  | some (.dir []) => .ok { disk with tree := disk.tree.remove place }
  | some (.dir _) => .error .notEmpty
  | some _ => .error .notADirectory
  | none => .error .notFound

/-- Makes a temporary directory, and tells its path. -/
def makeScratch (disk : Disk) : Except FileError (Path × Disk) := do
  let path ← disk.scratch
  return (path, ← disk.makeDir path)

/-- Removes a directory with all that is in it, if that can be done. A link in its place goes too,
a file stays. -/
def discard (disk : Disk) (path : Path) : Disk :=
  match disk.slot path with
  | .error _ => disk
  | .ok place =>
    match disk.tree.get? place with
    | some (.file _) => disk
    | _ => { disk with tree := disk.tree.remove place }

/-- A change that leaves the disk as it was if it fails. -/
def whole (change : Disk → Except FileError Disk) : EStateM FileError Disk Unit := fun disk =>
  match change disk with
  | .ok disk => .ok () disk
  | .error e => .error e disk

/-! ## Listing -/

/-- What is listed at a place: a file, or a directory with the places in it. -/
inductive Listed where
  | file (content : Bytes)
  | dir
deriving Repr, DecidableEq

/-- Every place below a directory, directories before what is in them, seen through links. A link
that leads nowhere counts as an empty file. At most `fuel` directories are inside each other. -/
def listingFrom (tree : FileTree) : (fuel links : Nat) → (place : List String) →
    List (List String × Listed)
  | 0, _, _ => []
  | fuel + 1, links, place =>
    ((tree.get? place).map FileTree.entries |>.getD []).flatMap fun (name, _) =>
      match follow tree links place [name] with
      | .error _ => [([name], .file [])]
      | .ok arrival =>
        match tree.get? arrival.place with
        | some (.dir _) =>
          ([name], .dir) :: (listingFrom tree fuel arrival.links arrival.place).map
            fun (below, listed) => (name :: below, listed)
        | some (.file found) => [([name], .file found.content)]
        | _ => [([name], .file [])]

/-- Every place below a directory. -/
def listing? (disk : Disk) (path : Path) : Option (List (List String × Listed)) :=
  match disk.find path, disk.place path with
  | .ok (.dir _), .ok place => some (listingFrom disk.tree maxPath maxLinks place)
  | _, _ => none

end Disk

end AssetSeed
