import AssetSeed.Files.Tree
import Mathlib.Data.List.Nodup

/-!
# File trees seen from their places

A tree says of each place whether there is a file or a directory. Two trees that say the same of all
places differ at most in the order in which their entries are listed.

## Main definitions

* `Node`, `FileTree.node?` — what is to be seen at a place.
* `FileTree.IsName` — a name that an entry can have.
* `FileTree.Plain`, `FileTree.PlainAt` — a tree of files and directories, as it is found on a disk,
  and a place that has one.

## Main statements

* `FileTree.induct` — induction over trees.
* `FileTree.get?_put_append`, `FileTree.get?_put_of_apart`, `FileTree.node?_put_above` — what is to
  be seen after a tree has been put at a place.
* `FileTree.put_put`, `FileTree.put_append` — trees that are put one after the other.
-/

namespace AssetSeed

/-- What is to be seen at a place, whatever is below it. -/
inductive Node where
  | file (file : File)
  | dir
  | link (target : String)
deriving DecidableEq

/-! ## Entries -/

namespace Entries

variable {entries : Entries} {name other : String} {tree : FileTree}

theorem find?_cons (entry : String × FileTree) (rest : Entries) :
    find? (entry :: rest) name = if entry.1 = name then some entry.2 else find? rest name := by
  rw [find?, List.find?_cons]
  by_cases same : entry.1 = name <;> simp [same, find?]

theorem find?_set : find? (set name tree entries) other =
    if name = other then some tree else find? entries other := by
  induction entries with
  | nil => rw [set, find?_cons]
  | cons entry rest ih =>
    rw [set, find?_cons]
    by_cases same : entry.1 = name
    · rw [if_pos same, find?_cons, same]
      split <;> rfl
    · rw [if_neg same, find?_cons, ih]
      grind

theorem set_set (tree' : FileTree) : set name tree (set name tree' entries) =
    set name tree entries := by
  induction entries with
  | nil => simp [set]
  | cons entry rest ih =>
    by_cases same : entry.1 = name <;> simp [set, same, ih]

theorem set_find? (found : find? entries name = some tree) : set name tree entries = entries := by
  induction entries with
  | nil => cases found
  | cons entry rest ih =>
    rw [find?_cons] at found
    rw [set]
    split
    · next same =>
      rw [if_pos same, Option.some_inj] at found
      rw [← same, ← found]
    · next other =>
      rw [if_neg other] at found
      rw [ih found]

theorem mem_of_find? (found : find? entries name = some tree) : (name, tree) ∈ entries := by
  obtain ⟨entry, first, rfl⟩ := Option.map_eq_some_iff.1 found
  obtain ⟨same, before, after, split, -⟩ := List.find?_eq_some_iff_append.1 first
  rw [split, ← of_decide_eq_true same]
  exact List.mem_append_right before List.mem_cons_self

theorem find?_eq_none_iff : find? entries name = none ↔ name ∉ entries.map Prod.fst := by
  simp only [find?, Option.map_eq_none_iff, List.find?_eq_none, decide_eq_true_eq, List.mem_map,
    not_exists, not_and]

theorem find?_of_mem (distinct : (entries.map Prod.fst).Nodup) (mem : (name, tree) ∈ entries) :
    find? entries name = some tree := by
  induction entries with
  | nil => cases mem
  | cons entry rest ih =>
    rw [List.map_cons, List.nodup_cons] at distinct
    rw [find?_cons]
    obtain rfl | mem := List.mem_cons.1 mem
    · rw [if_pos rfl]
    · have other : entry.1 ≠ name := fun same =>
        distinct.1 (same ▸ List.mem_map_of_mem (f := Prod.fst) mem)
      rw [if_neg other, ih distinct.2 mem]

theorem find?_perm {entries' : Entries} (distinct : (entries.map Prod.fst).Nodup)
    (perm : entries'.Perm entries) (name : String) :
    find? entries' name = find? entries name := by
  have distinct' : (entries'.map Prod.fst).Nodup := (perm.map Prod.fst).nodup_iff.2 distinct
  refine Option.ext fun tree => ⟨fun found => ?_, fun found => ?_⟩
  · exact find?_of_mem distinct (perm.mem_iff.1 (mem_of_find? found))
  · exact find?_of_mem distinct' (perm.mem_iff.2 (mem_of_find? found))

theorem mem_set {entry : String × FileTree} (mem : entry ∈ set name tree entries) :
    entry = (name, tree) ∨ entry ∈ entries := by
  induction entries with
  | nil => exact .inl (List.mem_singleton.1 mem)
  | cons first rest ih =>
    rw [set] at mem
    split at mem <;> grind

theorem map_fst_set : (set name tree entries).map Prod.fst =
    if name ∈ entries.map Prod.fst then entries.map Prod.fst
    else entries.map Prod.fst ++ [name] := by
  induction entries with
  | nil => rfl
  | cons entry rest ih =>
    rw [set]
    split <;> grind

theorem nodup_set (distinct : (entries.map Prod.fst).Nodup) :
    ((set name tree entries).map Prod.fst).Nodup := by
  rw [map_fst_set]
  split
  · exact distinct
  · next fresh => exact List.concat_eq_append ▸ distinct.concat fresh

section

variable {before : Entries} (rest : Entries) (fresh : name ∉ before.map Prod.fst)

include fresh

theorem set_append (old new : FileTree) :
    set name new (before ++ (name, old) :: rest) = before ++ (name, new) :: rest := by
  induction before with
  | nil => simp [set]
  | cons entry before ih =>
    rw [List.map_cons, List.mem_cons, not_or] at fresh
    rw [List.cons_append, set, if_neg (Ne.symm fresh.1), ih fresh.2, List.cons_append]

theorem erase_append (old : FileTree) (fresh' : name ∉ rest.map Prod.fst) :
    erase name (before ++ (name, old) :: rest) = before ++ rest := by
  have kept {entries : Entries} (fresh : name ∉ entries.map Prod.fst) :
      entries.filter (fun entry => entry.1 ≠ name) = entries := by
    refine List.filter_eq_self.2 fun entry mem => decide_eq_true ?_
    exact fun same => fresh (List.mem_map.2 ⟨entry, mem, same⟩)
  rw [erase, List.filter_append, kept fresh, List.filter_cons_of_neg (by simp), kept fresh']

end

end Entries

namespace FileTree

/-- Induction over the entries of directories. -/
theorem induct {motive : FileTree → Prop} (file : ∀ held, motive (.file held))
    (link : ∀ target, motive (.link target))
    (dir : ∀ entries, (∀ entry ∈ entries, motive entry.2) → motive (.dir entries)) :
    ∀ tree, motive tree
  | .file held => file held
  | .link target => link target
  | .dir entries => dir entries fun entry mem =>
    have smaller : sizeOf entry.2 < sizeOf (FileTree.dir entries) := by
      have inside := List.sizeOf_lt_of_mem mem
      obtain ⟨name, tree⟩ := entry
      simp only [Prod.mk.sizeOf_spec, FileTree.dir.sizeOf_spec] at inside ⊢
      omega
    induct file link dir entry.2
  termination_by tree => sizeOf tree
  decreasing_by exact smaller

/-! ## Places -/

def node : FileTree → Node
  | .file held => .file held
  | .dir _ => .dir
  | .link target => .link target

/-- What is to be seen at a place. -/
def node? (tree : FileTree) (place : List String) : Option Node :=
  (tree.get? place).map node

variable {tree new : FileTree} {place rest other : List String} {name : String}

theorem node_eq_dir_iff : tree.node = .dir ↔ ∃ entries, tree = .dir entries := by
  cases tree <;> simp [node]

theorem node_eq_file_iff {held : File} : tree.node = .file held ↔ tree = .file held := by
  cases tree <;> simp [node]

theorem node?_eq_dir_iff : tree.node? place = some .dir ↔
    ∃ entries, tree.get? place = some (.dir entries) := by
  rw [node?, Option.map_eq_some_iff]
  constructor
  · rintro ⟨found, here, isDir⟩
    obtain ⟨entries, rfl⟩ := node_eq_dir_iff.1 isDir
    exact ⟨entries, here⟩
  · rintro ⟨entries, here⟩
    exact ⟨_, here, rfl⟩

theorem node?_eq_file_iff {held : File} : tree.node? place = some (.file held) ↔
    tree.get? place = some (.file held) := by
  simp [node?, node_eq_file_iff]

theorem node?_eq_link_iff {target : String} : tree.node? place = some (.link target) ↔
    tree.get? place = some (.link target) := by
  rw [node?, Option.map_eq_some_iff]
  constructor
  · rintro ⟨found, here, isLink⟩
    cases found with
    | link => exact here.trans (by rw [node, Node.link.injEq] at isLink; rw [isLink])
    | _ => cases isLink
  · exact fun here => ⟨_, here, rfl⟩

theorem node?_eq_none_iff : tree.node? place = none ↔ tree.get? place = none :=
  Option.map_eq_none_iff

theorem get?_nil (tree : FileTree) : tree.get? [] = some tree := by
  rw [get?]

theorem get?_cons (tree : FileTree) (name : String) (rest : List String) :
    tree.get? (name :: rest) = (tree.entries.find? name).bind (·.get? rest) := by
  rw [get?]
  cases tree.entries.find? name <;> rfl

theorem get?_append (tree : FileTree) (place rest : List String) :
    tree.get? (place ++ rest) = (tree.get? place).bind (·.get? rest) := by
  induction place generalizing tree with
  | nil => rw [List.nil_append, get?_nil, Option.bind_some]
  | cons name place ih =>
    rw [List.cons_append, get?_cons, get?_cons, Option.bind_assoc]
    congr
    funext below
    exact ih below

theorem get?_dir_singleton {entries : Entries} (name : String) :
    (FileTree.dir entries).get? [name] = Entries.find? entries name := by
  rw [get?_cons, FileTree.entries]
  cases Entries.find? entries name <;> rfl

theorem node?_append (tree : FileTree) (place rest : List String) :
    tree.node? (place ++ rest) = (tree.get? place).bind (·.node? rest) := by
  rw [node?, get?_append, Option.map_bind]
  rfl

theorem node?_nil (tree : FileTree) : tree.node? [] = some tree.node := by
  rw [node?, get?_nil, Option.map_some]

theorem node?_dir_cons {entries : Entries} (name : String) (rest : List String) :
    (FileTree.dir entries).node? (name :: rest) =
      (Entries.find? entries name).bind (·.node? rest) := by
  rw [node?, get?_cons, Option.map_bind]
  rfl

/-- A directory says the same of all places in whatever order its entries are listed. -/
theorem node?_dir_perm {entries entries' : Entries}
    (distinct : (entries.map Prod.fst).Nodup) (perm : entries'.Perm entries) (place : List String) :
    (FileTree.dir entries').node? place = (FileTree.dir entries).node? place := by
  cases place with
  | nil => rw [node?_nil, node?_nil, FileTree.node, FileTree.node]
  | cons name rest => rw [node?_dir_cons, node?_dir_cons, Entries.find?_perm distinct perm]

/-- Nothing is below what is no directory. -/
theorem node?_cons_of_free (free : tree.node ≠ .dir) (name : String) (rest : List String) :
    tree.node? (name :: rest) = none := by
  rw [node?, get?_cons]
  cases tree with
  | dir entries => exact absurd rfl free
  | file | link => rfl

theorem node?_file_cons (held : File) (name : String) (rest : List String) :
    (FileTree.file held).node? (name :: rest) = none := by
  refine node?_cons_of_free ?_ name rest
  nofun

theorem get?_below {held : FileTree} (here : tree.get? place = some held) (rest : List String) :
    tree.get? (place ++ rest) = held.get? rest := by
  rw [get?_append, here, Option.bind_some]

theorem node?_below {held : FileTree} (here : tree.get? place = some held) (rest : List String) :
    tree.node? (place ++ rest) = held.node? rest := by
  rw [node?, get?_below here, node?]

theorem get?_of_missing (missing : tree.get? place = none) (rest : List String) :
    tree.get? (place ++ rest) = none := by
  rw [get?_append, missing, Option.bind_none]

/-- What is above something is a directory. -/
theorem node?_of_append {held : FileTree} (here : tree.get? (place ++ name :: rest) = some held) :
    tree.node? place = some .dir := by
  rw [get?_append, Option.bind_eq_some_iff] at here
  obtain ⟨above, found, below⟩ := here
  cases above with
  | dir entries => exact node?_eq_dir_iff.2 ⟨entries, found⟩
  | file | link =>
    rw [get?_cons] at below
    cases below

theorem node?_of_isPrefix {held : FileTree} (above : other <+: place) (differ : other ≠ place)
    (here : tree.get? place = some held) : tree.node? other = some .dir := by
  obtain ⟨rest, rfl⟩ := above
  cases rest with
  | nil => exact absurd (List.append_nil other).symm differ
  | cons name rest => exact node?_of_append here

/-- On the way to a directory there is a directory among the entries. -/
theorem exists_mem_of_isDir {entries : Entries} {name : String} {more : List String}
    (isDir : (FileTree.dir entries).node? (name :: more) = some .dir) :
    ∃ nested, (name, FileTree.dir nested) ∈ entries := by
  rw [node?_dir_cons, Option.bind_eq_some_iff] at isDir
  obtain ⟨tree, found, isDir⟩ := isDir
  by_cases dir : tree.node = .dir
  · obtain ⟨nested, rfl⟩ := node_eq_dir_iff.1 dir
    exact ⟨nested, Entries.mem_of_find? found⟩
  · cases more with
    | nil => exact absurd (Option.some.inj ((node?_nil tree).symm.trans isDir)) dir
    | cons next more => rw [node?_cons_of_free dir] at isDir; cases isDir

/-! ## Trees put at a place -/

theorem get?_put_append (tree new : FileTree) (place rest : List String) :
    (tree.put place new).get? (place ++ rest) = new.get? rest := by
  induction place generalizing tree with
  | nil => rw [put, List.nil_append]
  | cons name place ih =>
    rw [put, List.cons_append, get?_cons, entries, Entries.find?_set, if_pos rfl, Option.bind_some,
      ih]

theorem get?_put_self (tree new : FileTree) (place : List String) :
    (tree.put place new).get? place = some new := by
  have here := get?_put_append tree new place []
  rwa [List.append_nil, get?_nil] at here

theorem get?_put_of_apart (before : ¬ place <+: other) (behind : ¬ other <+: place) :
    (tree.put place new).get? other = tree.get? other := by
  induction place generalizing tree other with
  | nil => exact absurd (List.nil_prefix) before
  | cons name place ih =>
    cases other with
    | nil => exact absurd (List.nil_prefix) behind
    | cons first other =>
      rw [put, get?_cons, get?_cons, entries, Entries.find?_set]
      by_cases same : name = first
      · subst same
        rw [List.cons_prefix_cons, not_and] at before behind
        rw [if_pos rfl, Option.bind_some, ih (before rfl) (behind rfl)]
        cases tree.entries.find? name with
        | some below => rfl
        | none =>
          cases other with
          | nil => exact absurd (List.nil_prefix) (behind rfl)
          | cons => rfl
      · rw [if_neg same]

/-- An entry after it has been exchanged. -/
theorem node?_put_same (rest : List String) :
    (tree.put [name] new).node? (name :: rest) = new.node? rest := by
  rw [node?, node?, ← get?_put_append tree new [name] rest, List.singleton_append]

theorem node?_put_other {first : String} (differ : first ≠ name) (rest : List String) :
    (tree.put [name] new).node? (first :: rest) = tree.node? (first :: rest) := by
  rw [node?, node?, get?_put_of_apart] <;> simp [differ, Ne.symm differ]

/-- A file in a place of a directory where nothing was. -/
theorem node?_put_file (isDir : tree.node = .dir) (free : tree.get? [name] = none) (held : File)
    (rel : List String) : (tree.put [name] (.file held)).node? rel =
      if rel = [name] then some (.file held) else tree.node? rel := by
  cases rel with
  | nil => rw [node?_nil, node?_nil, isDir, if_neg (List.cons_ne_nil name []).symm]; rfl
  | cons first rest =>
    by_cases same : first = name
    · subst same
      rw [node?_put_same]
      cases rest with
      | nil => rw [if_pos rfl]; rfl
      | cons next rest =>
        have missing := get?_of_missing free (next :: rest)
        rw [node?_file_cons, if_neg (by simp)]
        exact (node?_eq_none_iff.2 missing).symm
    · rw [node?_put_other same, if_neg (by simp [same])]

theorem node?_put_above (above : other <+: place) (differ : other ≠ place) :
    (tree.put place new).node? other = some .dir :=
  node?_of_isPrefix above differ (get?_put_self tree new place)

/-- What is put into a directory is to be seen there and nowhere else. -/
theorem node?_put_of_not_isPrefix (parent : tree.node? place = some .dir)
    (outside : ¬ place ++ [name] <+: other) :
    (tree.put (place ++ [name]) new).node? other = tree.node? other := by
  by_cases above : other <+: place ++ [name]
  · have differ : other ≠ place ++ [name] := fun same => outside (same ▸ List.prefix_refl _)
    rw [node?_put_above above differ]
    obtain rfl | above := List.prefix_concat_iff.1 above
    · exact absurd rfl differ
    · obtain ⟨entries, here⟩ := node?_eq_dir_iff.1 parent
      by_cases same : other = place
      · rw [same, parent]
      · exact (node?_of_isPrefix above same here).symm
  · rw [node?, node?, get?_put_of_apart outside above]

theorem put_put (tree new new' : FileTree) (place : List String) :
    (tree.put place new').put place new = tree.put place new := by
  induction place generalizing tree with
  | nil => rw [put, put]
  | cons name place ih =>
    rw [put, put, put, entries, Entries.find?_set, if_pos rfl, Option.getD_some, ih,
      Entries.set_set]

/-- What is put further down in a tree that is put at a place. -/
theorem put_append (tree new new' : FileTree) (place rest : List String) :
    (tree.put place new').put (place ++ rest) new = tree.put place (new'.put rest new) := by
  induction place generalizing tree with
  | nil => rw [put, List.nil_append, put]
  | cons name place ih =>
    rw [put, List.cons_append, put, put, entries, Entries.find?_set, if_pos rfl, Option.getD_some,
      ih, Entries.set_set]

theorem put_of_missing (missing : tree.get? place = none) (rest : List String) :
    tree.put (place ++ rest) new = tree.put place (empty.put rest new) := by
  induction place generalizing tree with
  | nil => cases missing
  | cons name place ih =>
    rw [put, List.cons_append, put]
    rw [get?_cons] at missing
    cases found : tree.entries.find? name with
    | some below =>
      rw [found, Option.bind_some] at missing
      rw [Option.getD_some, ih missing]
    | none =>
      rw [Option.getD_none]
      cases place with
      | nil => rw [put, List.nil_append]
      | cons => rw [ih rfl]

/-- What is at a place is put there again. -/
theorem put_get? {held : FileTree} (here : tree.get? place = some held) :
    tree.put place held = tree := by
  induction place generalizing tree with
  | nil =>
    rw [get?_nil, Option.some_inj] at here
    rw [put, here]
  | cons name place ih =>
    rw [get?_cons, Option.bind_eq_some_iff] at here
    obtain ⟨below, found, here⟩ := here
    cases tree with
    | dir entries =>
      have found : Entries.find? entries name = some below := found
      rw [put, FileTree.entries, found, Option.getD_some, ih here, Entries.set_find? found]
    | file | link => cases found

/-- What is put further down is put into what is there. -/
theorem put_below {held : FileTree} (here : tree.get? place = some held) (rest : List String)
    (new : FileTree) : tree.put (place ++ rest) new = tree.put place (held.put rest new) := by
  rw [← put_append tree new held, put_get? here]

/-! ## Entries taken away -/

theorem remove_concat {entries : Entries} (here : tree.get? place = some (.dir entries)) :
    tree.remove (place ++ [name]) = tree.put place (.dir (entries.erase name)) := by
  induction place generalizing tree with
  | nil =>
    rw [get?_nil, Option.some_inj] at here
    rw [here, List.nil_append, remove, put, FileTree.entries]
  | cons first rest ih =>
    rw [get?_cons, Option.bind_eq_some_iff] at here
    obtain ⟨below, found, here⟩ := here
    obtain ⟨second, more, split⟩ := List.exists_cons_of_ne_nil (List.concat_ne_nil name rest)
    rw [List.cons_append, split, remove, found, put, found, Option.getD_some, ← split]
    · simp only [ih here]
    · nofun

/-! ## Trees as they are found on a disk -/

/-- A name that an entry can have. -/
structure IsName (name : String) : Prop where
  ne_empty : name ≠ ""
  ne_here : name ≠ "."
  ne_back : name ≠ ".."
  slashless : '/' ∉ name.toList
  zeroless : '\x00' ∉ name.toList
  short : name.utf8ByteSize ≤ 255

instance (name : String) : Decidable (IsName name) :=
  decidable_of_iff (name ≠ "" ∧ name ≠ "." ∧ name ≠ ".." ∧ '/' ∉ name.toList ∧
      '\x00' ∉ name.toList ∧ name.utf8ByteSize ≤ 255)
    ⟨fun ⟨a, b, c, d, e, f⟩ => ⟨a, b, c, d, e, f⟩, fun ⟨a, b, c, d, e, f⟩ => ⟨a, b, c, d, e, f⟩⟩

/-- Files and directories only, with names that differ within a directory. -/
structure Plain (tree : FileTree) : Prop where
  linkless : ∀ place target, tree.get? place ≠ some (.link target)
  distinct : ∀ place entries, tree.get? place = some (.dir entries) →
    (entries.map Prod.fst).Nodup
  named : ∀ place entries, tree.get? place = some (.dir entries) →
    ∀ entry ∈ entries, IsName entry.1

theorem Plain.below (plain : tree.Plain) {held : FileTree} (here : tree.get? place = some held) :
    held.Plain where
  linkless rest target found := plain.linkless (place ++ rest) target (get?_below here rest ▸ found)
  distinct rest _ found := plain.distinct (place ++ rest) _ (get?_below here rest ▸ found)
  named rest _ found := plain.named (place ++ rest) _ (get?_below here rest ▸ found)

/-- There are files and directories only at a place and below it, whatever is elsewhere. -/
def PlainAt (tree : FileTree) (place : List String) : Prop :=
  ∀ held, tree.get? place = some held → held.Plain

theorem Plain.plainAt (plain : tree.Plain) (place : List String) : tree.PlainAt place :=
  fun _ here => plain.below here

section

variable {entries : Entries} (plain : (FileTree.dir entries).Plain)

include plain

theorem Plain.nodup : (entries.map Prod.fst).Nodup :=
  plain.distinct [] entries (get?_nil _)

theorem Plain.isName {entry : String × FileTree} (mem : entry ∈ entries) : IsName entry.1 :=
  plain.named [] entries (get?_nil _) entry mem

theorem Plain.get?_entry {entry : String × FileTree} (mem : entry ∈ entries) :
    (FileTree.dir entries).get? [entry.1] = some entry.2 := by
  rw [get?_cons, FileTree.entries, Entries.find?_of_mem plain.nodup mem, Option.bind_some, get?_nil]

theorem Plain.entry {entry : String × FileTree} (mem : entry ∈ entries) : entry.2.Plain :=
  plain.below (plain.get?_entry mem)

end

/-- What is found is found under names that entries can have. -/
theorem Plain.isName_of_get? (plain : tree.Plain) {held : FileTree}
    (here : tree.get? place = some held) : ∀ name ∈ place, IsName name := by
  induction place generalizing tree with
  | nil => nofun
  | cons name rest ih =>
    rw [get?_cons, Option.bind_eq_some_iff] at here
    obtain ⟨below, found, here⟩ := here
    cases tree with
    | file | link => cases found
    | dir entries =>
      have mem := Entries.mem_of_find? found
      exact List.forall_mem_cons.2 ⟨plain.isName mem, ih (plain.entry mem) here⟩

theorem plain_file (held : File) : (FileTree.file held).Plain := by
  have eq_file {place : List String} {found : FileTree}
      (here : (FileTree.file held).get? place = some found) : found = .file held := by
    cases place with
    | nil => exact (Option.some.inj here).symm
    | cons name rest =>
      rw [get?_cons] at here
      cases here
  constructor
  · intro place target here
    cases eq_file here
  · intro place entries here
    cases eq_file here
  · intro place entries here
    cases eq_file here

theorem plain_dir_iff {entries : Entries} : (FileTree.dir entries).Plain ↔
    (entries.map Prod.fst).Nodup ∧ ∀ entry ∈ entries, IsName entry.1 ∧ entry.2.Plain := by
  refine ⟨fun plain => ⟨plain.nodup, fun _ mem => ⟨plain.isName mem, plain.entry mem⟩⟩, ?_⟩
  rintro ⟨distinct, proper⟩
  have below {name : String} {rest : List String} {found : FileTree}
      (here : (FileTree.dir entries).get? (name :: rest) = some found) :
      ∃ entry ∈ entries, entry.2.Plain ∧ entry.2.get? rest = some found := by
    rw [get?_cons, Option.bind_eq_some_iff] at here
    obtain ⟨tree, known, here⟩ := here
    have mem := Entries.mem_of_find? known
    exact ⟨_, mem, (proper _ mem).2, here⟩
  constructor
  · intro place target here
    cases place with
    | nil => cases here
    | cons name rest =>
      obtain ⟨entry, -, plain, here⟩ := below here
      exact plain.linkless _ _ here
  · intro place entries' here
    cases place with
    | nil => cases here; exact distinct
    | cons name rest =>
      obtain ⟨entry, -, plain, here⟩ := below here
      exact plain.distinct _ _ here
  · intro place entries' here
    cases place with
    | nil => cases here; exact fun entry mem => (proper entry mem).1
    | cons name rest =>
      obtain ⟨entry, -, plain, here⟩ := below here
      exact plain.named _ _ here

theorem plain_empty : empty.Plain :=
  plain_dir_iff.2 ⟨List.nodup_nil, nofun⟩

/-- By induction on the place: the entries that are made on the way have proper names. -/
theorem Plain.put (plain : tree.Plain) (proper : ∀ name ∈ place, IsName name) (plain' : new.Plain) :
    (tree.put place new).Plain := by
  induction place generalizing tree with
  | nil => exact plain'
  | cons name rest ih =>
    obtain ⟨isName, proper⟩ := List.forall_mem_cons.1 proper
    have entries : (FileTree.dir tree.entries).Plain := by
      cases tree with
      | dir entries => exact plain
      | file | link => exact plain_empty
    have below : ((tree.entries.find? name).getD .empty).Plain := by
      cases found : tree.entries.find? name with
      | none => exact plain_empty
      | some below => exact entries.entry (Entries.mem_of_find? found)
    obtain ⟨distinct, each⟩ := plain_dir_iff.1 entries
    refine plain_dir_iff.2 ⟨Entries.nodup_set distinct, fun entry mem => ?_⟩
    obtain rfl | mem := Entries.mem_set mem
    · exact ⟨isName, ih below proper⟩
    · exact each entry mem

end FileTree

end AssetSeed
