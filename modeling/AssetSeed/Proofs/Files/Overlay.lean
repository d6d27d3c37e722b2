import AssetSeed.Proofs.Files.Disk

/-!
# Trees over trees

A tree is laid over another one: its files take the place of those in the other, and everything else
stays. That goes well as long as nothing is a directory on one side and a file on the other.

## Main definitions

* `Node.copy` — what is to be seen of a copy.
* `Clash` — a directory on one side, a file on the other.
* `overlay` — what is to be seen where one tree lies over another.
* `FileTree.Allowed` — a tree can be copied over another one.
* `FileTree.Overlaid` — a tree lies over another one.

## Main statements

* `FileTree.allowed_file_iff`, `FileTree.allowed_dir_iff` — when a file can be copied, and when a
  directory can.
* `FileTree.overlaid_file`, `FileTree.Overlaid.cons` — a file that takes the place of another one,
  and entries that are laid over a directory one by one.
-/

namespace AssetSeed

/-- What is to be seen of a copy. The time of the last change is not copied. -/
def Node.copy : Node → Node
  | .file held => .file { content := held.content, executable := held.executable }
  | .dir => .dir
  | .link target => .link target

/-- A directory on one side, a file on the other. -/
inductive Clash : Option Node → Option Node → Prop
  | dir_file (held : File) : Clash (some .dir) (some (.file held))
  | file_dir (held : File) : Clash (some (.file held)) (some .dir)

/-- What is to be seen where a copy of one tree lies over another one. -/
def overlay (new old : Option Node) : Option Node :=
  (new.map Node.copy).or old

theorem overlay_none (old : Option Node) : overlay none old = old :=
  rfl

namespace FileTree

open Disk (Fits linkless_file)

/-- A tree can be copied over what is at the target. -/
structure Allowed (tree : FileTree) (old : Option FileTree) (source target : Path) : Prop where
  agree : ∀ rel, ¬ Clash (tree.node? rel) (old.bind (·.node? rel))
  fits : ∀ rel, tree.node? rel ≠ none → Fits (source.below rel) ∧ Fits (target.below rel)

/-- A tree lies over what was at the target. -/
structure Overlaid (tree : FileTree) (old : Option FileTree) (new : FileTree) : Prop where
  linkless : ∀ rel target, new.get? rel ≠ some (.link target)
  seen : ∀ rel, new.node? rel = overlay (tree.node? rel) (old.bind (·.node? rel))

section

variable {entries : Entries} {old : Option FileTree} {held : File} {source target : Path}

theorem bind_node?_nil : old.bind (·.node? []) = old.map node := by
  cases old with
  | none => rfl
  | some tree => exact node?_nil tree

theorem bind_node?_cons (name : String) (rel : List String) : old.bind (·.node? (name :: rel)) =
    (old.bind (·.get? [name])).bind (·.node? rel) := by
  rw [Option.bind_assoc]
  congr
  funext tree
  exact node?_append tree [name] rel

theorem bind_node?_cons_of_free (free : old.map node ≠ some .dir) (name : String)
    (rel : List String) : old.bind (·.node? (name :: rel)) = none := by
  cases old with
  | none => rfl
  | some tree => exact node?_cons_of_free (fun isDir => free (congrArg some isDir)) name rel

theorem allowed_file_iff : Allowed (.file held) old source target ↔
    Fits source ∧ Fits target ∧ old.map node ≠ some .dir := by
  constructor
  · intro allowed
    obtain ⟨fitsSource, fitsTarget⟩ := allowed.fits [] (by simp [node?_nil])
    refine ⟨fitsSource, fitsTarget, fun isDir => allowed.agree [] ?_⟩
    rw [node?_nil, bind_node?_nil, isDir]
    exact .file_dir held
  · rintro ⟨fitsSource, fitsTarget, free⟩
    constructor
    · intro rel clash
      cases rel with
      | nil =>
        rw [node?_nil, bind_node?_nil] at clash
        cases isDir : old.map node with
        | none => rw [isDir] at clash; cases clash
        | some node =>
          rw [isDir] at clash free
          cases clash
          exact free rfl
      | cons name rel =>
        rw [node?_file_cons] at clash
        cases clash
    · intro rel some
      cases rel with
      | nil => exact ⟨fitsSource, fitsTarget⟩
      | cons name rel => exact absurd (node?_file_cons held name rel) some

theorem overlaid_file (free : old.map node ≠ some .dir) : Overlaid (.file held) old
    (.file { content := held.content, executable := held.executable }) := by
  refine ⟨linkless_file _, fun rel => ?_⟩
  cases rel with
  | nil => rfl
  | cons name rel =>
    rw [node?_file_cons, node?_file_cons, bind_node?_cons_of_free free]
    rfl

/-- What is missing is as good as an empty directory. -/
theorem bind_get?_getD (name : String) (rest : List String) :
    (old.getD .empty).get? (name :: rest) = old.bind (·.get? (name :: rest)) := by
  cases old <;> rfl

theorem node?_getD_cons (name : String) (rest : List String) :
    (old.getD .empty).node? (name :: rest) = old.bind (·.node? (name :: rest)) := by
  cases old <;> rfl

theorem Overlaid.of_getD {new : FileTree}
    (laid : Overlaid (.dir entries) (some (old.getD .empty)) new) :
    Overlaid (.dir entries) old new := by
  refine ⟨laid.linkless, fun rel => ?_⟩
  rw [laid.seen rel]
  cases rel with
  | nil => rw [node?_nil]; rfl
  | cons name rel => rw [Option.bind_some, node?_getD_cons]

/-- A directory can be copied if its entries can. -/
theorem allowed_dir_iff (plain : (FileTree.dir entries).Plain) :
    Allowed (.dir entries) old source target ↔
      Fits source ∧ Fits target ∧ (∀ held, old.map node ≠ some (.file held)) ∧
      ∀ entry ∈ entries, Allowed entry.2 (old.bind (·.get? [entry.1])) (source.join entry.1)
        (target.join entry.1) := by
  constructor
  · intro allowed
    obtain ⟨fitsSource, fitsTarget⟩ := allowed.fits [] (by simp [node?_nil])
    refine ⟨fitsSource, fitsTarget, fun held isFile => allowed.agree [] ?_, fun entry mem => ?_⟩
    · rw [node?_nil, bind_node?_nil, isFile]
      exact .dir_file held
    · have found := Entries.find?_of_mem plain.nodup mem
      have seen (rel : List String) : (FileTree.dir entries).node? (entry.1 :: rel) =
          entry.2.node? rel := by
        rw [node?_dir_cons, found, Option.bind_some]
      constructor
      · intro rel
        have agree := allowed.agree (entry.1 :: rel)
        rwa [seen, bind_node?_cons] at agree
      · intro rel some
        exact allowed.fits (entry.1 :: rel) (seen rel ▸ some)
  · rintro ⟨fitsSource, fitsTarget, free, below⟩
    constructor
    · intro rel clash
      cases rel with
      | nil =>
        rw [node?_nil, bind_node?_nil, node] at clash
        generalize isFile : old.map node = there at clash
        cases clash with
        | dir_file held => exact free held isFile
      | cons name rel =>
        rw [node?_dir_cons, bind_node?_cons] at clash
        cases found : Entries.find? entries name with
        | none => rw [found] at clash; cases clash
        | some tree =>
          rw [found, Option.bind_some] at clash
          exact (below _ (Entries.mem_of_find? found)).agree rel clash
    · intro rel some
      cases rel with
      | nil => exact ⟨fitsSource, fitsTarget⟩
      | cons name rel =>
        rw [node?_dir_cons] at some
        cases found : Entries.find? entries name with
        | none => rw [found] at some; exact absurd rfl some
        | some tree =>
          rw [found, Option.bind_some] at some
          exact (below _ (Entries.mem_of_find? found)).fits rel some

end

section

variable {todo : Entries} {name : String} {tree cur new new' : FileTree}

/-- The entries are laid over a directory one by one. -/
theorem Overlaid.cons (fresh : name ∉ todo.map Prod.fst)
    (first : Overlaid tree (cur.get? [name]) new)
    (others : Overlaid (.dir todo) (some (cur.put [name] new)) new') :
    Overlaid (.dir ((name, tree) :: todo)) (some cur) new' := by
  refine ⟨others.linkless, fun rel => ?_⟩
  rw [others.seen rel]
  cases rel with
  | nil => rfl
  | cons other rel =>
    simp only [Option.bind_some, node?_dir_cons, Entries.find?_cons]
    by_cases same : name = other
    · subst same
      rw [Entries.find?_eq_none_iff.2 fresh, Option.bind_none, overlay_none, node?_put_same,
        first.seen, if_pos rfl, Option.bind_some, ← node?_append, List.singleton_append]
    · rw [if_neg same, node?_put_other (Ne.symm same)]

end

end FileTree

end AssetSeed
