import AssetSeed.Text.Utf8

/-!
# File trees

A tree is a file, a symbolic link, or a directory of named trees.

## Main definitions

* `FileTree` — the trees.
* `FileTree.get?` — the tree at a place, which is a list of names.
* `FileTree.put` — the tree with another one at a place.
* `FileTree.remove` — the tree without what is at a place.
* `FileTree.files` — every file below the root, with its place.
-/

namespace AssetSeed

structure File where
  content : Bytes
  /-- The time of the last change, in seconds. -/
  modified : Int := 0
  executable : Bool := false
deriving Repr, DecidableEq, Inhabited

inductive FileTree where
  | file (file : File)
  | dir (entries : List (String × FileTree))
  /-- Stands for what its path leads to, seen from the directory that the link is in. -/
  | link (target : String)
deriving Repr, Inhabited

/-- The entries of a directory. -/
abbrev Entries := List (String × FileTree)

namespace Entries

def find? (entries : Entries) (name : String) : Option FileTree :=
  (List.find? (fun entry => entry.1 = name) entries).map (·.2)

/-- Exchanges the entry of a name, or adds one at the end. -/
def set (name : String) (tree : FileTree) : Entries → Entries
  | [] => [(name, tree)]
  | entry :: rest => if entry.1 = name then (name, tree) :: rest else entry :: set name tree rest

def erase (name : String) (entries : Entries) : Entries :=
  List.filter (fun entry => entry.1 ≠ name) entries

end Entries

namespace FileTree

def empty : FileTree :=
  .dir []

def isDir : FileTree → Bool
  | .dir _ => true
  | .file _ | .link _ => false

def entries : FileTree → Entries
  | .dir entries => entries
  | .file _ | .link _ => []

def get? : FileTree → List String → Option FileTree
  | tree, [] => some tree
  | tree, name :: rest =>
    match tree.entries.find? name with
    | none => none
    | some below => below.get? rest

/-- The tree with `new` at a place, in directories that are made where there are none. -/
def put : FileTree → List String → (new : FileTree) → FileTree
  | _, [], new => new
  | tree, name :: rest, new =>
    .dir (tree.entries.set name (put ((tree.entries.find? name).getD .empty) rest new))

/-- The tree without what is at a place. The root stays. -/
def remove : FileTree → List String → FileTree
  | tree, [] => tree
  | tree, [name] => .dir (tree.entries.erase name)
  | tree, name :: rest =>
    match tree.entries.find? name with
    | none => tree
    | some below => .dir (tree.entries.set name (below.remove rest))

mutual

/-- Every file below the root, with its place. -/
def files : FileTree → List (List String × File)
  | .file _ | .link _ => []
  | .dir entries => filesOfEntries entries

def filesOfEntries : List (String × FileTree) → List (List String × File)
  | [] => []
  | (name, .file found) :: rest => ([name], found) :: filesOfEntries rest
  | (_, .link _) :: rest => filesOfEntries rest
  | (name, .dir entries) :: rest =>
    (filesOfEntries entries).map (fun (place, found) => (name :: place, found))
      ++ filesOfEntries rest

end

end FileTree

end AssetSeed
