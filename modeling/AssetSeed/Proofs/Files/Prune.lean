import AssetSeed.Files.Prune
import AssetSeed.Proofs.Files.Disk

/-!
# Directories that hold a file

A directory is pruned from the inside out, so that one goes once those in it have gone. What stays
is said here for the tree as a whole, without an order in which entries are visited: the directories
that hold a file at some depth.

## Main definitions

* `FileTree.HoldsFile` — there is a file at some depth.
* `FileTree.prune` — a tree without the directories below its root that hold no file.
* `Disk.Searchable` — a directory in which no path is too long.
* `Disk.Leaves` — how a directory is left.

## Main statements

* `FileTree.get?_prune_eq_some_iff` — what is left, and where.
* `FileTree.prune_prune` — a pruned tree has nothing to prune.
* `Disk.pruneStep_leaves`, `Disk.foldlM_leaves` — one entry, and by induction all of them.
* `Disk.prunes` — a directory, by induction on its depth.
* `Disk.pruneDir_keeps` — when a directory is pruned, and what is kept.
-/

namespace AssetSeed.FileTree

/-- There is a file at some depth, or the tree is one. -/
def HoldsFile (tree : FileTree) : Prop :=
  ∃ place held, tree.get? place = some (.file held)

mutual

/-- The tree without the directories below its root that hold no file at any depth. -/
def prune : FileTree → FileTree
  | .file held => .file held
  | .link target => .link target
  | .dir entries => .dir (pruneEntries entries)

/-- The entries without those directories that have none left. -/
def pruneEntries : List (String × FileTree) → List (String × FileTree)
  | [] => []
  | entry :: rest => (pruned? entry).toList ++ pruneEntries rest

/-- The entry with its tree pruned, unless that is a directory with nothing left in it. -/
def pruned? : String × FileTree → Option (String × FileTree)
  | (name, tree) =>
    match prune tree with
    | .dir [] => none
    | kept => some (name, kept)

end

variable {tree : FileTree} {entries : Entries} {name : String} {rel : List String}

theorem pruneEntries_eq (entries : Entries) : pruneEntries entries = entries.filterMap pruned? := by
  induction entries with
  | nil => rw [pruneEntries, List.filterMap_nil]
  | cons entry rest ih =>
    rw [pruneEntries, ih, List.filterMap_cons]
    cases pruned? entry <;> rfl

theorem pruned?_eq_none_iff : pruned? (name, tree) = none ↔ prune tree = .dir [] := by
  rw [pruned?]
  split
  · next gone => simp [gone]
  · next kept differ => simpa using differ

theorem pruned?_eq_some_iff {entry : String × FileTree} : pruned? (name, tree) = some entry ↔
    prune tree ≠ .dir [] ∧ entry = (name, prune tree) := by
  rw [pruned?]
  split
  · next gone => simp [gone]
  · next kept differ =>
    rw [Option.some_inj, and_iff_right differ]
    exact eq_comm

/-! ## What is left of the entries -/

theorem mem_pruneEntries {entry : String × FileTree} : entry ∈ pruneEntries entries ↔
    ∃ tree, (entry.1, tree) ∈ entries ∧ prune tree ≠ .dir [] ∧ entry.2 = prune tree := by
  rw [pruneEntries_eq, List.mem_filterMap]
  constructor
  · rintro ⟨⟨name, tree⟩, mem, kept⟩
    obtain ⟨some, rfl⟩ := pruned?_eq_some_iff.1 kept
    exact ⟨tree, mem, some, rfl⟩
  · rintro ⟨tree, mem, some, same⟩
    exact ⟨_, mem, pruned?_eq_some_iff.2 ⟨some, Prod.ext rfl same⟩⟩

theorem map_fst_pruneEntries (entries : Entries) :
    ((pruneEntries entries).map Prod.fst).Sublist (entries.map Prod.fst) := by
  induction entries with
  | nil => rw [pruneEntries]
  | cons entry rest ih =>
    rw [pruneEntries, List.map_append, List.map_cons]
    cases kept : pruned? entry with
    | none => exact ih.cons _
    | some entry' =>
      obtain ⟨-, rfl⟩ := pruned?_eq_some_iff.1 kept
      exact ih.cons_cons _

theorem nodup_pruneEntries (distinct : (entries.map Prod.fst).Nodup) :
    ((pruneEntries entries).map Prod.fst).Nodup :=
  distinct.sublist (map_fst_pruneEntries entries)

theorem find?_pruneEntries (distinct : (entries.map Prod.fst).Nodup) {new : FileTree} :
    Entries.find? (pruneEntries entries) name = some new ↔
      ∃ tree, Entries.find? entries name = some tree ∧ prune tree ≠ .dir [] ∧ new = prune tree := by
  constructor
  · intro found
    obtain ⟨tree, mem, some, same⟩ := mem_pruneEntries.1 (Entries.mem_of_find? found)
    exact ⟨tree, Entries.find?_of_mem distinct mem, some, same⟩
  · rintro ⟨tree, found, some, same⟩
    refine Entries.find?_of_mem (nodup_pruneEntries distinct) ?_
    exact mem_pruneEntries.2 ⟨tree, Entries.mem_of_find? found, some, same⟩

/-! ## What is left of a tree -/

/-- By induction on the tree: what is pruned has nothing to prune. -/
theorem prune_prune (tree : FileTree) : prune (prune tree) = prune tree := by
  induction tree using induct with
  | file held => rw [prune, prune]
  | link target => rw [prune, prune]
  | dir entries ih =>
    rw [prune, prune, FileTree.dir.injEq, pruneEntries_eq (pruneEntries entries)]
    refine (List.filterMap_congr fun entry mem => ?_).trans List.filterMap_some
    obtain ⟨tree, known, some, same⟩ := mem_pruneEntries.1 mem
    have again := ih _ known
    exact pruned?_eq_some_iff.2 ⟨by rwa [same, again], by rw [same, again, ← same]⟩

theorem HoldsFile.of_get? {below : FileTree} (found : tree.get? rel = some below)
    (holds : HoldsFile below) : HoldsFile tree := by
  obtain ⟨rest, held, here⟩ := holds
  exact ⟨rel ++ rest, held, (get?_below found rest).trans here⟩

theorem holdsFile_dir_iff (plain : (FileTree.dir entries).Plain) :
    HoldsFile (.dir entries) ↔ ∃ entry ∈ entries, HoldsFile entry.2 := by
  constructor
  · rintro ⟨rel, held, here⟩
    cases rel with
    | nil => cases here
    | cons name rest =>
      rw [get?_cons, Option.bind_eq_some_iff] at here
      obtain ⟨tree, found, here⟩ := here
      exact ⟨_, Entries.mem_of_find? found, rest, held, here⟩
  · rintro ⟨entry, mem, holds⟩
    exact holds.of_get? (plain.get?_entry mem)

/-- By induction on the tree: nothing is left of it if it holds no file. -/
theorem prune_eq_empty_iff (plain : tree.Plain) : prune tree = .dir [] ↔ ¬ HoldsFile tree := by
  induction tree using induct with
  | file held =>
    rw [prune]
    exact ⟨nofun, fun none => absurd ⟨[], held, get?_nil _⟩ none⟩
  | link target => exact absurd (get?_nil _) (plain.linkless [] target)
  | dir entries ih =>
    rw [prune, FileTree.dir.injEq, pruneEntries_eq, List.filterMap_eq_nil_iff,
      holdsFile_dir_iff plain, not_exists]
    refine forall_congr' fun entry => ?_
    rw [not_and]
    refine forall_congr' fun mem => ?_
    exact pruned?_eq_none_iff.trans (ih entry mem (plain.entry mem))

/-- By induction on the place: what is left there is what holds a file, and the root. -/
theorem get?_prune_eq_some_iff (plain : tree.Plain) {new : FileTree} :
    (prune tree).get? rel = some new ↔
      ∃ below, tree.get? rel = some below ∧ (rel = [] ∨ HoldsFile below) ∧ new = prune below := by
  induction rel generalizing tree with
  | nil => simp only [get?_nil, Option.some_inj, true_or, true_and, exists_eq_left', eq_comm]
  | cons name rest ih =>
    simp only [reduceCtorEq, false_or]
    cases tree with
    | file | link => simp [prune, get?_cons, FileTree.entries, Entries.find?]
    | dir entries =>
      have below {tree : FileTree} (found : Entries.find? entries name = some tree) :
          tree.Plain :=
        plain.entry (Entries.mem_of_find? found)
      simp only [prune, get?_cons, FileTree.entries, Option.bind_eq_some_iff,
        find?_pruneEntries plain.nodup]
      constructor
      · rintro ⟨_, ⟨tree, found, some, rfl⟩, left⟩
        obtain ⟨inner, here, holds, rfl⟩ := (ih (below found)).1 left
        refine ⟨inner, ⟨tree, found, here⟩, ?_, rfl⟩
        obtain rfl | holds := holds
        · rw [get?_nil, Option.some_inj] at here
          rwa [ne_eq, prune_eq_empty_iff (below found), not_not, here] at some
        · exact holds
      · rintro ⟨inner, ⟨tree, found, here⟩, holds, rfl⟩
        have left := (ih (below found)).2 ⟨inner, here, .inr holds, rfl⟩
        refine ⟨prune tree, ⟨tree, found, ?_, rfl⟩, left⟩
        rw [ne_eq, prune_eq_empty_iff (below found), not_not]
        exact holds.of_get? here

theorem node_prune (tree : FileTree) : (prune tree).node = tree.node := by
  cases tree <;> rfl

/-- Files and directories are to be seen where they were, as long as there is a file at some
depth. -/
theorem node?_prune_eq_some_iff (plain : tree.Plain) {node : Node} :
    (prune tree).node? rel = some node ↔ tree.node? rel = some node ∧
      (rel = [] ∨ ∃ more held, tree.node? (rel ++ more) = some (.file held)) := by
  have holds {below : FileTree} (here : tree.get? rel = some below) : HoldsFile below ↔
      ∃ more held, tree.node? (rel ++ more) = some (.file held) := by
    simp only [HoldsFile, node?_eq_file_iff, get?_below here]
  constructor
  · intro seen
    obtain ⟨new, left, rfl⟩ := Option.map_eq_some_iff.1 seen
    obtain ⟨below, here, kept, rfl⟩ := (get?_prune_eq_some_iff plain).1 left
    exact ⟨Option.map_eq_some_iff.2 ⟨below, here, (node_prune below).symm⟩,
      kept.imp_right (holds here).1⟩
  · rintro ⟨seen, kept⟩
    obtain ⟨below, here, rfl⟩ := Option.map_eq_some_iff.1 seen
    refine Option.map_eq_some_iff.2 ⟨prune below, ?_, node_prune below⟩
    exact (get?_prune_eq_some_iff plain).2 ⟨below, here, kept.imp_right (holds here).2, rfl⟩

theorem node?_prune_congr {tree' : FileTree} (plain : tree.Plain) (plain' : tree'.Plain)
    (same : ∀ rel, tree'.node? rel = tree.node? rel) (rel : List String) :
    (prune tree').node? rel = (prune tree).node? rel := by
  refine Option.ext fun node => ?_
  rw [node?_prune_eq_some_iff plain, node?_prune_eq_some_iff plain']
  simp only [same]

theorem pruneEntries_isEmpty_iff (plain : (FileTree.dir entries).Plain) :
    (pruneEntries entries).isEmpty ↔
      ∀ rel held, (FileTree.dir entries).node? rel ≠ some (.file held) := by
  have nothing := prune_eq_empty_iff plain
  rw [prune, FileTree.dir.injEq] at nothing
  rw [List.isEmpty_iff, nothing, HoldsFile]
  simp only [not_exists, ne_eq, node?_eq_file_iff]

theorem pruneEntries_pruneEntries (entries : Entries) :
    pruneEntries (pruneEntries entries) = pruneEntries entries := by
  have again := prune_prune (.dir entries)
  rwa [prune, prune, FileTree.dir.injEq] at again

theorem plain_prune (plain : tree.Plain) : (prune tree).Plain := by
  constructor
  · intro place target found
    obtain ⟨below, here, -, same⟩ := (get?_prune_eq_some_iff plain).1 found
    cases below with
    | link path => exact plain.linkless place path here
    | file | dir => cases same
  · intro place entries found
    obtain ⟨below, here, -, same⟩ := (get?_prune_eq_some_iff plain).1 found
    cases below with
    | dir entries' =>
      cases same
      exact nodup_pruneEntries (plain.distinct place entries' here)
    | file | link => cases same
  · intro place entries found entry mem
    obtain ⟨below, here, -, same⟩ := (get?_prune_eq_some_iff plain).1 found
    cases below with
    | dir entries' =>
      cases same
      obtain ⟨tree, known, -⟩ := mem_pruneEntries.1 mem
      have isName := plain.named place entries' here _ known
      exact isName
    | file | link => cases same

theorem pruned?_dir (name : String) (entries : Entries) : pruned? (name, .dir entries) =
    if (pruneEntries entries).isEmpty then none else some (name, .dir (pruneEntries entries)) := by
  rw [pruned?, prune]
  cases pruneEntries entries <;> rfl

/-- An entry is exchanged for what is left of it. -/
theorem plain_step {before rest : Entries} {entry : String × FileTree}
    (plain : (FileTree.dir (before ++ entry :: rest)).Plain) :
    (FileTree.dir (before ++ (pruned? entry).toList ++ rest)).Plain := by
  obtain ⟨distinct, each⟩ := plain_dir_iff.1 plain
  rw [List.forall_mem_append, List.forall_mem_cons] at each
  obtain ⟨each, here, each'⟩ := each
  rw [List.append_assoc, plain_dir_iff, List.forall_mem_append, List.forall_mem_append]
  obtain ⟨name, tree⟩ := entry
  cases kept : pruned? (name, tree) with
  | none =>
    refine ⟨distinct.sublist ?_, each, nofun, each'⟩
    exact ((List.sublist_cons_self _ _).append_left before).map Prod.fst
  | some entry' =>
    obtain ⟨-, rfl⟩ := pruned?_eq_some_iff.1 kept
    refine ⟨?_, each, List.forall_mem_singleton.2 ⟨here.1, plain_prune here.2⟩, each'⟩
    rw [List.map_append] at distinct ⊢
    exact distinct

end AssetSeed.FileTree

namespace AssetSeed.Disk

open AssetSeed.Path FileTree

variable {disk : Disk} {path : Path} {place : List String}

/-! ## Directories in which one can look -/

/-- No path of a directory in the tree is too long. -/
def Searchable (tree : FileTree) (path : Path) : Prop :=
  ∀ rel, tree.node? rel = some .dir → Fits (path.below rel)

theorem searchable_file (held : File) : Searchable (.file held) path := by
  intro rel isDir
  cases rel with
  | nil => cases isDir
  | cons name rel =>
    rw [node?_file_cons] at isDir
    cases isDir

theorem searchable_dir_iff {entries : Entries} (plain : (FileTree.dir entries).Plain) :
    Searchable (.dir entries) path ↔
      Fits path ∧ ∀ entry ∈ entries, Searchable entry.2 (path.join entry.1) := by
  constructor
  · intro searchable
    refine ⟨searchable [] (node?_nil _), fun entry mem rel isDir => ?_⟩
    refine searchable (entry.1 :: rel) ?_
    rwa [node?_dir_cons, Entries.find?_of_mem plain.nodup mem]
  · rintro ⟨fits, each⟩ rel isDir
    cases rel with
    | nil => exact fits
    | cons name rel =>
      rw [node?_dir_cons, Option.bind_eq_some_iff] at isDir
      obtain ⟨tree, found, isDir⟩ := isDir
      exact each _ (Entries.mem_of_find? found) rel isDir

/-! ## How it ends -/

/-- The entries at a place have been exchanged for some others, and it is known whether these are
none, exactly if that is allowed. -/
def Leaves (disk : Disk) (place : List String) (allowed : Prop) (empty : Bool) (kept : Entries) :
    EStateM.Result FileError Disk Bool → Prop
  | .ok found after => allowed ∧ found = empty ∧ after = disk.put place (.dir kept)
  | .error _ _ => ¬ allowed

/-- What was at the place in between does not count. -/
theorem Leaves.of_put {allowed : Prop} {empty : Bool} {kept : Entries} {between : FileTree}
    {result : EStateM.Result FileError Disk Bool}
    (leaves : Leaves (disk.put place between) place allowed empty kept result) :
    Leaves disk place allowed empty kept result := by
  cases result with
  | ok found after =>
    rw [Leaves, put_put] at leaves
    exact leaves
  | error e after => exact leaves

/-- What is done about an entry. -/
def pruneStep (fuel : Nat) (path : Path) (empty : Bool) (entry : String × FileTree) :
    EStateM FileError Disk Bool := do
  if entry.2.isDir then
    if ← pruneUpTo fuel (path.join entry.1) then
      whole (removeDir · (path.join entry.1))
      return empty
  return false

theorem pruneStep_dir (fuel : Nat) (path : Path) (empty : Bool) (name : String)
    (entries : Entries) : pruneStep fuel path empty (name, .dir entries) =
      pruneUpTo fuel (path.join name) >>= fun left =>
        if left then whole (removeDir · (path.join name)) >>= fun _ => pure empty
        else pure false :=
  rfl

theorem pruneUpTo_succ (fuel : Nat) (path : Path) (disk : Disk) : pruneUpTo (fuel + 1) path disk =
    match disk.entries path with
    | .error e => .error e disk
    | .ok entries => entries.foldlM (pruneStep fuel path) true disk := by
  rw [pruneUpTo]
  exact entries_bind path disk _

/-- The fuel lasts for every path that is long enough. -/
def Prunes (fuel : Nat) : Prop :=
  ∀ (disk : Disk) (path : Path) (place : List String) (entries : Entries),
    disk.Reaches path place → disk.tree.get? place = some (.dir entries) →
    (FileTree.dir entries).Plain → maxPath < fuel + path.text.utf8ByteSize →
    Leaves disk place (Searchable (.dir entries) path) (pruneEntries entries).isEmpty
      (pruneEntries entries) (pruneUpTo fuel path disk)

section

variable {fuel : Nat} (prunes : Prunes fuel) (reaches : disk.Reaches path place)
  (enough : maxPath < fuel + 1 + path.text.utf8ByteSize) {before rest : Entries}
  (empty : Bool)

include prunes reaches enough

/-- One entry is exchanged for what is left of it. -/
theorem pruneStep_leaves {entry : String × FileTree}
    (found : disk.tree.get? place = some (.dir (before ++ entry :: rest)))
    (plain : (FileTree.dir (before ++ entry :: rest)).Plain) :
    Leaves disk place (Searchable entry.2 (path.join entry.1)) (empty && (pruned? entry).isNone)
      (before ++ (pruned? entry).toList ++ rest) (pruneStep fuel path empty entry disk) := by
  obtain ⟨name, tree⟩ := entry
  obtain ⟨distinct, each⟩ := plain_dir_iff.1 plain
  have mem : (name, tree) ∈ before ++ (name, tree) :: rest := by simp
  obtain ⟨isName, plain'⟩ : IsName name ∧ tree.Plain := each _ mem
  have here : disk.tree.get? (place ++ [name]) = some tree :=
    (get?_below found [name]).trans (plain.get?_entry mem)
  cases tree with
  | link target => exact absurd here (reaches.linkless.below [name] target)
  | file held =>
    have kept : pruned? (name, .file held) = some (name, .file held) := rfl
    refine ⟨searchable_file held, by simp [kept], ?_⟩
    rw [kept, Option.toList_some, List.append_assoc, List.singleton_append, put_get? found]
  | dir entries =>
    have reaches' := reaches.join isName
    have longer := reaches.leads.size_lt_join isName
    have ends := prunes disk _ _ entries reaches' here plain' (by omega)
    have fresh : name ∉ before.map Prod.fst ∧ name ∉ rest.map Prod.fst := by
      rw [List.map_append, List.map_cons, List.nodup_middle, List.nodup_cons, List.mem_append,
        not_or] at distinct
      exact distinct.1
    have exchanged (new : FileTree) :
        disk.put (place ++ [name]) new = disk.put place (.dir (before ++ (name, new) :: rest)) := by
      rw [put_below found, FileTree.put, FileTree.entries, Entries.set_append rest fresh.1,
        FileTree.put]
    rw [pruned?_dir, pruneStep_dir]
    cases run : pruneUpTo fuel (path.join name) disk with
    | error e after =>
      rw [run] at ends
      rw [bind_of_error _ run]
      exact ends
    | ok left after =>
      rw [run] at ends
      obtain ⟨searchable, rfl, rfl⟩ := ends
      rw [bind_of_ok _ run]
      cases kept : pruneEntries entries with
      | nil =>
        have parent : (disk.put (place ++ [name]) (.dir [])).tree.get? place =
            some (.dir (before ++ (name, .dir []) :: rest)) := by
          rw [exchanged]
          exact get?_put_self ..
        have removed : (disk.put (place ++ [name]) (.dir [])).removeDir (path.join name) = _ :=
          removeDir_of_empty (reaches'.put_self linkless_empty) (searchable [] (node?_nil _)) parent
            (get?_put_self ..)
        rw [Entries.erase_append rest fresh.1 _ fresh.2] at removed
        have removes : whole (removeDir · (path.join name)) (disk.put (place ++ [name]) (.dir [])) =
            .ok () (disk.put place (.dir (before ++ rest))) := by
          rw [whole, removed, exchanged, put_put]
        rw [List.isEmpty_nil, if_pos rfl, if_pos rfl, bind_of_ok _ removes]
        exact ⟨searchable, by simp, by simp⟩
      | cons entry more =>
        refine ⟨searchable, by simp, ?_⟩
        rw [exchanged, List.append_assoc]
        rfl

/-- By induction on the entries that are still to be visited, behind those that are left of the
ones before. -/
theorem foldlM_leaves {todo : Entries}
    (found : disk.tree.get? place = some (.dir (before ++ todo)))
    (plain : (FileTree.dir (before ++ todo)).Plain) :
    Leaves disk place (∀ entry ∈ todo, Searchable entry.2 (path.join entry.1))
      (empty && (pruneEntries todo).isEmpty) (before ++ pruneEntries todo)
      (todo.foldlM (pruneStep fuel path) empty disk) := by
  induction todo generalizing disk before empty with
  | nil =>
    refine ⟨nofun, (Bool.and_true empty).symm, ?_⟩
    rw [pruneEntries, put_get? found]
  | cons entry rest ih =>
    have first := pruneStep_leaves prunes reaches enough empty found plain
    rw [List.foldlM_cons]
    cases run : pruneStep fuel path empty entry disk with
    | error e after =>
      rw [run] at first
      rw [bind_of_error _ run]
      exact fun allowed => first (allowed entry List.mem_cons_self)
    | ok left after =>
      rw [run] at first
      obtain ⟨searchable, rfl, rfl⟩ := first
      rw [bind_of_ok _ run]
      have plain' := plain_step plain
      have others := (ih (reaches.put_self plain'.linkless) (empty && (pruned? entry).isNone)
        (get?_put_self ..) plain').of_put
      have flag : (empty && (pruneEntries (entry :: rest)).isEmpty) =
          (empty && (pruned? entry).isNone && (pruneEntries rest).isEmpty) := by
        rw [pruneEntries, Bool.and_assoc]
        cases pruned? entry <;> rfl
      rw [flag, pruneEntries, ← List.append_assoc, List.forall_mem_cons, and_iff_right searchable]
      exact others

end

/-- By induction on the fuel, which lasts as long as the paths are short enough. -/
theorem prunes (fuel : Nat) : Prunes fuel := by
  induction fuel with
  | zero =>
    intro disk path place entries reaches found plain enough searchable
    rw [Nat.zero_add] at enough
    exact absurd (searchable [] (node?_nil _)) (Nat.not_le.2 enough)
  | succ fuel ih =>
    intro disk path place entries reaches found plain enough
    rw [pruneUpTo_succ, searchable_dir_iff plain]
    by_cases fits : Fits path
    · have read := (entries_eq_ok_iff reaches).2 ⟨fits, found⟩
      simp only [read]
      rw [and_iff_right fits]
      have found' : disk.tree.get? place = some (.dir ([] ++ entries)) := found
      exact foldlM_leaves ih reaches enough true found' plain
    · obtain ⟨e, fails⟩ := entries_eq_error reaches fun here => absurd here fits
      simp only [fails]
      exact fun allowed => fits allowed.1

/-! ## The directory of a path -/

section

variable {entries : Entries} (reaches : disk.Reaches path place)
  (found : disk.tree.get? place = some (.dir entries)) (plain : (FileTree.dir entries).Plain)

include reaches found plain

theorem pruneDir_eq_ok_iff {empty : Bool} {after : Disk} :
    disk.pruneDir path = .ok (empty, after) ↔ Searchable (.dir entries) path ∧
      empty = (pruneEntries entries).isEmpty ∧
      after = disk.put place (.dir (pruneEntries entries)) := by
  have some := mt String.utf8ByteSize_eq_zero_iff.1 reaches.leads.text_ne_empty
  have leaves := prunes maxPath disk path place entries reaches found plain (by omega)
  rw [pruneDir]
  cases run : pruneUpTo maxPath path disk with
  | error e after' =>
    rw [run] at leaves
    have refused : ¬ Searchable (.dir entries) path := leaves
    simp only [reduceCtorEq, refused, false_and]
  | ok empty' after' =>
    rw [run] at leaves
    obtain ⟨searchable, rfl, rfl⟩ := leaves
    simp only [Except.ok.injEq, Prod.mk.injEq, searchable, true_and]
    exact and_congr eq_comm eq_comm

end

/-- A directory of files and directories is pruned, to which the way leads through no link. That
succeeds if and only if no path of a directory in it is too long. What is left is the directory
itself, every file as it was, and those directories that hold a file at some depth; nothing is left
in it if and only if there is no file at any depth. So no empty directory is left below, and to
prune it again changes nothing and tells the same. What is neither in the directory nor on the way to
it stays as it is, and none of this depends on the order in which directories list their entries. -/
theorem pruneDir_keeps (plain : disk.tree.PlainAt place) (reaches : disk.Reaches path place)
    (isDir : disk.tree.node? place = some .dir) :
    ((∃ empty after, disk.pruneDir path = .ok (empty, after)) ↔
      ∀ rel, disk.tree.node? (place ++ rel) = some .dir → Fits (path.below rel)) ∧
    ∀ empty after, disk.pruneDir path = .ok (empty, after) →
      (∀ rel node, after.tree.node? (place ++ rel) = some node ↔
        disk.tree.node? (place ++ rel) = some node ∧
          (rel = [] ∨ ∃ more held, disk.tree.node? (place ++ (rel ++ more)) = some (.file held))) ∧
      (empty = true ↔ ∀ rel held, disk.tree.node? (place ++ rel) ≠ some (.file held)) ∧
      (∀ rel, rel ≠ [] → after.tree.get? (place ++ rel) ≠ some (.dir [])) ∧
      after.pruneDir path = .ok (empty, after) ∧
      (∀ other, ¬ place <+: other → ¬ other <+: place →
        after.tree.get? other = disk.tree.get? other) ∧
      ∀ other : Disk, other.tree.PlainAt place → disk.Resembles other →
        ∃ after', other.pruneDir path = .ok (empty, after') ∧ after.Resembles after' := by
  obtain ⟨entries, found⟩ := node?_eq_dir_iff.1 isDir
  have seen (rel : List String) := node?_below found rel
  have plain₀ := plain _ found
  have pruned {empty : Bool} {after : Disk} :
      disk.pruneDir path = .ok (empty, after) ↔ _ := pruneDir_eq_ok_iff reaches found plain₀
  simp only [seen]
  refine ⟨?_, ?_⟩
  · simp only [pruned, exists_and_left, exists_eq, and_true]
    rfl
  intro empty after success
  obtain ⟨searchable, rfl, rfl⟩ := pruned.1 success
  have plain' : (FileTree.dir (pruneEntries entries)).Plain := plain_prune plain₀
  have left (rel : List String) : (disk.put place (.dir (pruneEntries entries))).tree.get?
      (place ++ rel) = (prune (.dir entries)).get? rel := get?_put_append ..
  refine ⟨fun rel node => ?_, pruneEntries_isEmpty_iff plain₀, fun rel some gone => ?_, ?_,
    fun other => get?_put_of_apart, fun other plainOther resembles => ?_⟩
  · rw [node?, left]
    exact node?_prune_eq_some_iff plain₀
  · rw [left] at gone
    obtain ⟨below, here, holds, same⟩ := (get?_prune_eq_some_iff plain₀).1 gone
    exact (prune_eq_empty_iff (plain₀.below here)).1 same.symm (holds.resolve_left some)
  · refine (pruneDir_eq_ok_iff (reaches.put_self plain'.linkless) (get?_put_self ..) plain').2 ?_
    rw [pruneEntries_pruneEntries, put_put]
    refine ⟨fun rel isDir => searchable rel ?_, rfl, rfl⟩
    exact ((node?_prune_eq_some_iff plain₀).1 isDir).1
  · obtain ⟨entries', found'⟩ := node?_eq_dir_iff.1 ((resembles.seen place).trans isDir)
    have plain₁ := plainOther _ found'
    have same (rel : List String) :
        (FileTree.dir entries').node? rel = (FileTree.dir entries).node? rel := by
      rw [← node?_below found, ← node?_below found', resembles.seen]
    have empty : (pruneEntries entries).isEmpty = (pruneEntries entries').isEmpty := by
      rw [Bool.eq_iff_iff, pruneEntries_isEmpty_iff plain₀, pruneEntries_isEmpty_iff plain₁]
      simp only [same]
    refine ⟨_, (pruneDir_eq_ok_iff (resembles.reaches reaches) found' plain₁).2
      ⟨fun rel isDir => searchable rel (same rel ▸ isDir), empty, rfl⟩, ?_⟩
    exact resembles.put (node?_prune_congr plain₀ plain₁ same) place

/-- There is a link elsewhere on the disk. -/
theorem pruneDir_keeps_nested :
    let disk : Disk := { tree := .dir [("m", .dir [
      ("a", .dir [("b", .dir [("c", .empty)])]),
      ("images", .dir [("logo", .file { content := [7] }), ("none", .empty)])]),
      ("l", .link "m")] }
    disk.tree.PlainAt ["m"] ∧ disk.Reaches ⟨"m"⟩ ["m"] ∧ disk.tree.node? ["m"] = some .dir ∧
    ∃ after, disk.pruneDir ⟨"m"⟩ = .ok (false, after) ∧ after.pruneDir ⟨"m"⟩ = .ok (false, after) ∧
      after.tree.node? ["m", "images", "logo"] = some (.file { content := [7] }) := by
  intro disk
  have plain : disk.tree.PlainAt ["m"] := by
    rintro held here
    cases here
    simp only [empty, plain_dir_iff, plain_file, List.forall_mem_cons, List.not_mem_nil,
      false_imp_iff, implies_true, and_true]
    decide +kernel
  have reaches : disk.Reaches ⟨"m"⟩ ["m"] :=
    reaches_name (.of_found rfl (plain _ rfl)) rfl (by decide +kernel)
  have value : (disk.pruneDir ⟨"m"⟩).map Prod.fst = .ok false := by decide +kernel
  cases run : disk.pruneDir ⟨"m"⟩ with
  | error e => rw [run] at value; cases value
  | ok result =>
    obtain ⟨empty, after⟩ := result
    rw [run] at value
    obtain rfl : empty = false := Except.ok.inj value
    obtain ⟨kept, -, -, again, -⟩ := (pruneDir_keeps plain reaches rfl).2 false after run
    exact ⟨plain, reaches, rfl, after, rfl, again,
      (kept ["images", "logo"] _).2 ⟨rfl, .inr ⟨[], _, rfl⟩⟩⟩

/-- A directory inside many others, the path of which is too long, is in the way. -/
theorem pruneDir_too_long :
    let deep := List.replicate 21 (longName 200)
    let disk : Disk := { tree := FileTree.empty.put ("d" :: deep) .empty }
    disk.tree.Plain ∧ disk.Reaches ⟨"d"⟩ ["d"] ∧ disk.tree.node? ["d"] = some .dir ∧
    ¬ ∃ empty after, disk.pruneDir ⟨"d"⟩ = .ok (empty, after) := by
  intro deep disk
  have proper : ∀ name ∈ deep, IsName name := isName_of_mem_row _ (by decide) (by decide)
  have plain : disk.tree.Plain :=
    plain_empty.put (List.forall_mem_cons.2 ⟨by decide +kernel, proper⟩) plain_empty
  have reaches : disk.Reaches ⟨"d"⟩ ["d"] :=
    reaches_name (.of_plain plain _) rfl (by decide +kernel)
  refine ⟨plain, reaches, rfl, ?_⟩
  rintro ⟨empty, after, success⟩
  obtain ⟨entries, found⟩ := node?_eq_dir_iff.1 (show disk.tree.node? ["d"] = some .dir from rfl)
  have filled : (FileTree.dir entries).node? deep = some .dir := by
    rw [← node?_below found deep, node?_eq_dir_iff]
    exact ⟨[], get?_put_self .empty _ ("d" :: deep)⟩
  have fits := ((pruneDir_eq_ok_iff reaches found (plain.below found)).1 success).1 deep filled
  rw [Fits, reaches.leads.size_below proper] at fits
  simp only [deep] at fits
  exact absurd fits (by decide +kernel)

end AssetSeed.Disk
