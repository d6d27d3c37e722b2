import AssetSeed.Files.Disk
import AssetSeed.Proofs.Files.Path

/-!
# Ways without links

If no links are on the way, a path that is spelled out, and is not too long, leads to its place.
What can be done there depends on what the tree has at this place and above it.

## Main definitions

* `Disk.Linkless` — no link is on the way to a place, or below it.
* `Disk.Reaches` — a path for a place, on a way without links.
* `Disk.Resembles` — two disks that differ at most in the order of their entries.
* `Disk.Fits` — a path that is not too long.
* `Disk.Open` — no file is on the way to a place.
* `Disk.Vacant` — there is room for a new directory.

## Main statements

* `Disk.find_eq_ok_iff`, `Disk.entries_eq_ok_iff` — what is found.
* `Disk.makeDir_eq_ok_iff` — when a directory is made.
* `Disk.createDirs_of_missing`, `Disk.createDirs_of_get?` — what becomes of the disk when
  directories are made.
* `Disk.write_of_free`, `Disk.write_of_isDir` — what becomes of the disk when a file is written.
* `Disk.removeDir_of_empty` — what becomes of it when an empty directory is taken away.
-/

namespace AssetSeed.Disk

open AssetSeed.Path FileTree

theorem bind_eq_ok_iff {ε α β : Type} {x : Except ε α} {f : α → Except ε β} {b : β} :
    (x >>= f) = .ok b ↔ ∃ a, x = .ok a ∧ f a = .ok b := by
  cases x <;> simp [bind, Except.bind]

/-- No link is on the way to the place, or at it. -/
def Clear (tree : FileTree) (place : List String) : Prop :=
  ∀ other, other <+: place → ∀ target, tree.get? other ≠ some (.link target)

section

variable {tree : FileTree} {place : List String}

theorem Clear.init {name : String} (clear : Clear tree (place ++ [name])) : Clear tree place :=
  fun other before => clear other (before.trans (List.prefix_append place [name]))

/-- Only directories are above what is found. -/
theorem clear_of_get? {held : FileTree} (here : tree.get? place = some held)
    (stays : ∀ target, held ≠ .link target) : Clear tree place := by
  intro other before target found
  by_cases same : other = place
  · rw [same, here] at found
    exact stays target (Option.some.inj found)
  · have isDir := node?_of_isPrefix before same here
    rw [node?_eq_link_iff.2 found] at isDir
    cases isDir

/-- A place in a directory that is there. -/
theorem clear_concat {name : String} (parent : tree.node? place = some .dir)
    (stays : ∀ target, tree.get? (place ++ [name]) ≠ some (.link target)) :
    Clear tree (place ++ [name]) := by
  obtain ⟨entries, here⟩ := node?_eq_dir_iff.1 parent
  intro other before target
  obtain rfl | before := List.prefix_concat_iff.1 before
  · exact stays target
  · exact clear_of_get? here nofun other before target

end

/-- No link is on the way to the place, at it or below it. There may be some elsewhere. -/
structure Linkless (tree : FileTree) (place : List String) : Prop where
  way : Clear tree place
  below : ∀ rel target, tree.get? (place ++ rel) ≠ some (.link target)

namespace Linkless

variable {tree : FileTree} {place : List String}

theorem here (linkless : Linkless tree place) (target : String) :
    tree.get? place ≠ some (.link target) :=
  linkless.way place (List.prefix_refl place) target

theorem of_links {other : FileTree} (linkless : Linkless tree place)
    (links : ∀ seat target, other.get? seat = some (.link target) →
      tree.get? seat = some (.link target)) : Linkless other place where
  way above before target found := linkless.way above before target (links _ _ found)
  below rel target found := linkless.below rel target (links _ _ found)

theorem append (linkless : Linkless tree place) (rel : List String) :
    Linkless tree (place ++ rel) where
  way other before target := by
    obtain above | ⟨more, rfl⟩ :=
      List.prefix_or_prefix_of_prefix before (List.prefix_append place rel)
    · exact linkless.way other above target
    · exact linkless.below more target
  below more target := by
    rw [List.append_assoc]
    exact linkless.below (rel ++ more) target

theorem of_missing (way : Clear tree place) (missing : tree.get? place = none) :
    Linkless tree place where
  way := way
  below rel target := by
    rw [get?_of_missing missing]
    nofun

theorem of_plain (plain : tree.Plain) (place : List String) : Linkless tree place :=
  ⟨fun other _ => plain.linkless other, fun _ => plain.linkless _⟩

theorem of_found {held : FileTree} (here : tree.get? place = some held) (plain : held.Plain) :
    Linkless tree place where
  way := clear_of_get? here fun target isLink => plain.linkless [] target (by rw [get?_nil, isLink])
  below rel target := by
    rw [get?_below here]
    exact plain.linkless rel target

end Linkless

/-- The path is spelled out for the place and starts in a directory, and no link is on the way to
the place or below it. -/
structure Reaches (disk : Disk) (path : Path) (place : List String) : Prop where
  linkless : Linkless disk.tree place
  seated : disk.tree.node? (disk.start path) = some .dir
  leads : Leads disk.current path place

/-- The same files and directories, listed in whatever order. -/
structure Resembles (disk other : Disk) : Prop where
  current : other.current = disk.current
  seen : ∀ place, other.tree.node? place = disk.tree.node? place

theorem Resembles.symm {disk other : Disk} (resembles : disk.Resembles other) :
    other.Resembles disk where
  current := resembles.current.symm
  seen place := (resembles.seen place).symm

/-- The path is not too long. -/
def Fits (path : Path) : Prop :=
  path.text.utf8ByteSize ≤ maxPath

instance (path : Path) : Decidable (Fits path) :=
  inferInstanceAs (Decidable (_ ≤ _))

/-- No file is on the way to a place. -/
def Open (tree : FileTree) (place : List String) : Prop :=
  ∀ above, above <+: place → above ≠ place → ∀ held, tree.node? above ≠ some (.file held)

theorem Open.above {tree : FileTree} {above : List String} {name : String}
    (way : Open tree (above ++ [name])) : Open tree above := by
  intro place isPrefix _ held
  refine way place (isPrefix.trans (List.prefix_append _ _)) ?_ held
  rintro rfl
  exact absurd isPrefix.length_le (by simp)

/-- The way does not end where nothing is. -/
theorem way_of_missing {tree : FileTree} {above : List String} {name : String}
    (missing : tree.get? above = none) (way : Open tree above) : Open tree (above ++ [name]) := by
  intro place isPrefix differ held isFile
  obtain rfl | isPrefix := List.prefix_concat_iff.1 isPrefix
  · exact differ rfl
  · refine way place isPrefix ?_ held isFile
    rintro rfl
    rw [node?_eq_file_iff, missing] at isFile
    cases isFile

theorem open_of_isDir {tree : FileTree} {above : List String} {name : String}
    (parent : tree.node? above = some .dir) : Open tree (above ++ [name]) := by
  intro place isPrefix differ held isFile
  obtain rfl | isPrefix := List.prefix_concat_iff.1 isPrefix
  · exact differ rfl
  · obtain ⟨entries, here⟩ := node?_eq_dir_iff.1 parent
    by_cases same : place = above
    · rw [same, parent] at isFile
      cases isFile
    · rw [node?_of_isPrefix isPrefix same here] at isFile
      cases isFile

/-- Nothing is in the way where nothing is. -/
theorem open_of_missing {tree : FileTree} {above : List String} {name : String}
    (parent : tree.node? above = some .dir) (missing : tree.get? (above ++ [name]) = none)
    (rest : List String) : Open tree (above ++ [name] ++ rest) := by
  intro place isPrefix _ held isFile
  have found := node?_eq_file_iff.1 isFile
  obtain before | ⟨more, rfl⟩ := List.prefix_or_prefix_of_prefix isPrefix
    (List.prefix_append (above ++ [name]) rest)
  · refine open_of_isDir parent place before ?_ held isFile
    rintro rfl
    rw [missing] at found
    cases found
  · rw [get?_of_missing missing] at found
    cases found

/-! ## Walks -/

section

variable {tree : FileTree} {links : Nat}
  {jump : (place steps : List String) → Except FileError Arrival} {place names : List String}
  (clear : Clear tree (place ++ names)) (proper : ∀ name ∈ names, IsName name)

/-- A step to an entry of a directory. -/
theorem walk_cons {entries : Entries} (here : tree.get? place = some (.dir entries)) {name : String}
    (isName : IsName name) (rest : List String) : walk tree links jump place (name :: rest) =
      match Entries.find? entries name with
      | none => .error .notFound
      | some (.link target) => jump (startFrom place ⟨target⟩) (Path.steps ⟨target⟩ ++ rest)
      | some _ => walk tree links jump (place ++ [name]) rest := by
  have short : ¬ maxName < name.utf8ByteSize := Nat.not_lt.2 isName.short
  have onward : ¬ (name = "" || name = ".") := by simp [isName.ne_empty, isName.ne_here]
  rw [walk, here]
  exact (if_neg onward).trans ((if_neg isName.ne_back).trans (if_neg short))

include clear proper

theorem walk_found {held : FileTree} (here : tree.get? (place ++ names) = some held) :
    walk tree links jump place names = .ok ⟨place ++ names, links⟩ := by
  induction names generalizing place with
  | nil => rw [walk, List.append_nil]
  | cons name rest ih =>
    obtain ⟨isName, proper⟩ := List.forall_mem_cons.1 proper
    obtain ⟨entries, above⟩ := node?_eq_dir_iff.1 (node?_of_append here)
    rw [List.append_cons] at here clear ⊢
    rw [walk_cons above isName]
    have next : tree.get? (place ++ [name]) = Entries.find? entries name :=
      (get?_below above [name]).trans (get?_dir_singleton name)
    cases found : Entries.find? entries name with
    | none =>
      rw [found] at next
      rw [get?_of_missing next] at here
      cases here
    | some below =>
      cases below with
      | link target =>
        exact absurd (next.trans found) (clear _ (List.prefix_append _ rest) target)
      | file | dir => exact ih clear proper here

theorem walk_missing {above : FileTree} (here : tree.get? place = some above)
    (missing : tree.get? (place ++ names) = none) :
    ∃ e, walk tree links jump place names = .error e ∧
      (Open tree (place ++ names) → e = .notFound) ∧
      (¬ Open tree (place ++ names) → e = .notADirectory) := by
  induction names generalizing place above with
  | nil =>
    rw [List.append_nil, here] at missing
    cases missing
  | cons name rest ih =>
    obtain ⟨isName, proper⟩ := List.forall_mem_cons.1 proper
    cases above with
    | link target => exact absurd here (clear _ (List.prefix_append place _) target)
    | file held =>
      refine ⟨.notADirectory, by rw [walk, here], fun way => ?_, fun _ => rfl⟩
      refine absurd (node?_eq_file_iff.2 here) (way place (List.prefix_append _ _) ?_ held)
      simp
    | dir entries =>
      rw [walk_cons here isName]
      have next : tree.get? (place ++ [name]) = Entries.find? entries name :=
      (get?_below here [name]).trans (get?_dir_singleton name)
      have split : place ++ name :: rest = place ++ [name] ++ rest := List.append_cons ..
      rw [split] at missing clear ⊢
      cases found : Entries.find? entries name with
      | none =>
        have isDir : tree.node? place = some .dir := node?_eq_dir_iff.2 ⟨entries, here⟩
        exact ⟨_, rfl, fun _ => rfl,
          fun blocked => absurd (open_of_missing isDir (next.trans found) rest) blocked⟩
      | some below =>
        cases below with
        | link target =>
          exact absurd (next.trans found) (clear _ (List.prefix_append _ rest) target)
        | file | dir => exact ih clear proper (next.trans found) missing

end

/-! ## Paths -/

variable {disk : Disk} {path : Path} {place : List String}

theorem checked_eq (leads : Leads disk.current path place) :
    checked path = if maxPath < path.text.utf8ByteSize then .error .nameTooLong else .ok () := by
  have some : path.text.isEmpty = false := by
    rw [← Bool.not_eq_true, String.isEmpty_iff]
    exact leads.text_ne_empty
  have zeroless : path.text.toList.contains '\x00' = false := by
    rw [← Bool.not_eq_true, List.contains_iff_mem]
    exact leads.zeroless
  rw [checked, some, zeroless]
  rfl

theorem checked_of_fits (leads : Leads disk.current path place) (fits : Fits path) :
    checked path = .ok () := by
  rw [checked_eq leads, if_neg (Nat.not_lt.2 fits)]

theorem checked_of_not_fits (leads : Leads disk.current path place) (long : ¬ Fits path) :
    checked path = .error .nameTooLong := by
  rw [checked_eq leads, if_pos (Nat.lt_of_not_le long)]

theorem start_spell {absolute : Bool} {names : List String} (some : names ≠ [])
    (proper : ∀ name ∈ names, IsName name) :
    disk.start (spell absolute names) = if absolute then [] else disk.current := by
  rw [start, startFrom, isAbsolute_spell some proper]

theorem follow_unfold (tree : FileTree) (links : Nat) :
    ∃ jump, follow tree links = walk tree links jump := by
  cases links <;> exact ⟨_, rfl⟩

section

variable {absolute : Bool}
  (base : disk.tree.node? (if absolute then [] else disk.current) = some .dir)

include base

/-- The slash in front of a path changes nothing, since there is a directory. -/
theorem follow_eq (links : Nat) (names : List String) : ∃ jump,
    follow disk.tree links (if absolute then [] else disk.current)
        ((if absolute then [""] else []) ++ names) =
      walk disk.tree links jump (if absolute then [] else disk.current) names := by
  obtain ⟨jump, unfolded⟩ := follow_unfold disk.tree links
  refine ⟨jump, ?_⟩
  rw [unfolded]
  cases absolute with
  | false => rfl
  | true =>
    obtain ⟨entries, root⟩ := node?_eq_dir_iff.1 base
    rw [if_pos rfl] at root
    simp [walk, root]

variable {names : List String}
  (clear : Clear disk.tree ((if absolute then [] else disk.current) ++ names))
  (proper : ∀ name ∈ names, IsName name)

include clear proper

theorem follow_found (links : Nat) {held : FileTree}
    (here : disk.tree.get? ((if absolute then [] else disk.current) ++ names) = some held) :
    follow disk.tree links (if absolute then [] else disk.current)
        ((if absolute then [""] else []) ++ names) =
      .ok ⟨(if absolute then [] else disk.current) ++ names, links⟩ := by
  obtain ⟨jump, follow_eq⟩ := follow_eq base links names
  rw [follow_eq, walk_found clear proper here]

theorem follow_missing (links : Nat)
    (missing : disk.tree.get? ((if absolute then [] else disk.current) ++ names) = none) :
    ∃ e, follow disk.tree links (if absolute then [] else disk.current)
        ((if absolute then [""] else []) ++ names) = .error e ∧
      (Open disk.tree ((if absolute then [] else disk.current) ++ names) → e = .notFound) ∧
      (¬ Open disk.tree ((if absolute then [] else disk.current) ++ names) →
        e = .notADirectory) := by
  obtain ⟨jump, follow_eq⟩ := follow_eq base links names
  obtain ⟨entries, start⟩ := node?_eq_dir_iff.1 base
  rw [follow_eq]
  exact walk_missing clear proper start missing

end

/-! ## What is found -/

section

variable (reaches : disk.Reaches path place)

include reaches

theorem place_of_get? {held : FileTree} (fits : Fits path)
    (here : disk.tree.get? place = some held) : disk.place path = .ok place := by
  obtain ⟨linkless, seated, leads⟩ := reaches
  have checked := checked_of_fits leads fits
  cases leads with
  | spelled absolute some proper =>
    rw [start_spell some proper] at seated
    rw [Disk.place, checked, start_spell some proper, steps_spell some proper,
      follow_found seated linkless.way proper maxLinks here]
    rfl

theorem place_of_missing (missing : disk.tree.get? place = none) :
    ∃ e, disk.place path = .error e := by
  obtain ⟨linkless, seated, leads⟩ := reaches
  by_cases fits : Fits path
  · have checked := checked_of_fits leads fits
    cases leads with
    | spelled absolute some proper =>
      rw [start_spell some proper] at seated
      obtain ⟨e, follow, -⟩ := follow_missing seated linkless.way proper maxLinks missing
      refine ⟨e, ?_⟩
      rw [Disk.place, checked, start_spell some proper, steps_spell some proper, follow]
      rfl
  · exact ⟨.nameTooLong, by rw [Disk.place, checked_of_not_fits leads fits]; rfl⟩

theorem find_eq_ok_iff {held : FileTree} :
    disk.find path = .ok held ↔ Fits path ∧ disk.tree.get? place = some held := by
  cases here : disk.tree.get? place with
  | none =>
    obtain ⟨e, fails⟩ := place_of_missing reaches here
    rw [find, fails]
    simp [bind, Except.bind]
  | some found =>
    by_cases fits : Fits path
    · rw [find, place_of_get? reaches fits here]
      simp [bind, Except.bind, here, fits]
    · rw [find, Disk.place, checked_of_not_fits reaches.leads fits]
      simp [bind, Except.bind, fits]

theorem isFile_iff : disk.isFile path ↔
    Fits path ∧ ∃ held, disk.tree.node? place = some (.file held) := by
  simp only [node?_eq_file_iff]
  rw [Disk.isFile]
  constructor
  · intro isFile
    split at isFile
    · next held found =>
      obtain ⟨fits, here⟩ := (find_eq_ok_iff reaches).1 found
      exact ⟨fits, held, here⟩
    · cases isFile
  · rintro ⟨fits, held, here⟩
    rw [(find_eq_ok_iff reaches).2 ⟨fits, here⟩]

theorem exists?_iff : disk.exists? path ↔ Fits path ∧ disk.tree.node? place ≠ none := by
  rw [Disk.exists?, ne_eq, node?_eq_none_iff]
  constructor
  · intro found
    cases find : disk.find path with
    | error e => rw [find] at found; cases found
    | ok held =>
      obtain ⟨fits, here⟩ := (find_eq_ok_iff reaches).1 find
      exact ⟨fits, by rw [here]; nofun⟩
  · rintro ⟨fits, some⟩
    obtain ⟨held, here⟩ := Option.ne_none_iff_exists'.1 some
    rw [(find_eq_ok_iff reaches).2 ⟨fits, here⟩]
    rfl

theorem readText_of_file {held : File} (fits : Fits path)
    (here : disk.tree.get? place = some (.file held)) : disk.readText path =
      match Text.utf8Decode? held.content with
      | some text => .ok text
      | none => .error notText := by
  rw [readText, Disk.read, Disk.file, (find_eq_ok_iff reaches).2 ⟨fits, here⟩]
  rfl

theorem entries_eq_ok_iff {entries : Entries} :
    disk.entries path = .ok entries ↔ Fits path ∧ disk.tree.get? place = some (.dir entries) := by
  rw [← find_eq_ok_iff reaches, Disk.entries]
  cases disk.find path with
  | error e => simp [bind, Except.bind]
  | ok held => cases held <;> simp [bind, Except.bind]

theorem entries_eq_error (unread : Fits path → disk.tree.node? place ≠ some .dir) :
    ∃ e, disk.entries path = .error e := by
  cases read : disk.entries path with
  | error e => exact ⟨e, rfl⟩
  | ok entries =>
    obtain ⟨fits, here⟩ := (entries_eq_ok_iff reaches).1 read
    exact absurd (node?_eq_dir_iff.2 ⟨entries, here⟩) (unread fits)

end

/-! ## What is put at a place -/

theorem put_get? {held : FileTree} (here : disk.tree.get? place = some held) :
    disk.put place held = disk := by
  rw [put, FileTree.put_get? here]

theorem put_put (new new' : FileTree) (place : List String) :
    (disk.put place new').put place new = disk.put place new := by
  rw [put, put, FileTree.put_put, put]

theorem put_below {held : FileTree} (here : disk.tree.get? place = some held) (rest : List String)
    (new : FileTree) : disk.put (place ++ rest) new = disk.put place (held.put rest new) := by
  rw [put, put, FileTree.put_below here]

/-- What is put at a place brings no links, so those that are there then were there before. -/
theorem get?_of_put_link {tree new : FileTree}
    (linkless : ∀ rel target, new.get? rel ≠ some (.link target)) {place other : List String}
    {target : String} (found : (tree.put place new).get? other = some (.link target)) :
    tree.get? other = some (.link target) := by
  by_cases before : place <+: other
  · obtain ⟨rest, rfl⟩ := before
    rw [get?_put_append] at found
    exact absurd found (linkless rest target)
  by_cases behind : other <+: place
  · have isDir : (tree.put place new).node? other = some .dir :=
      node?_put_above behind fun same => before (same ▸ List.prefix_refl _)
    rw [node?_eq_link_iff.2 found] at isDir
    cases isDir
  · rwa [get?_put_of_apart before behind] at found

theorem Linkless.put {tree new : FileTree} {place : List String} (linkless : Linkless tree place)
    (linkless' : ∀ rel target, new.get? rel ≠ some (.link target)) (other : List String) :
    Linkless (tree.put other new) place :=
  linkless.of_links fun _ _ => get?_of_put_link linkless'

/-- A path starts above the place for which it is spelled out. -/
theorem Reaches.start_isPrefix (reaches : disk.Reaches path place) :
    disk.start path <+: place ∧ ¬ place <+: disk.start path := by
  obtain ⟨-, -, leads⟩ := reaches
  cases leads with
  | @spelled absolute names some proper =>
    rw [start_spell some proper]
    refine ⟨List.prefix_append _ _, fun inside => some ?_⟩
    have shorter := inside.length_le
    rw [List.length_append] at shorter
    exact List.eq_nil_of_length_eq_zero (by omega)

/-- What is put elsewhere than in front of a path does not get in its way. -/
theorem Reaches.put (reaches : disk.Reaches path place) {new : FileTree} {other : List String}
    (linkless : ∀ rel target, new.get? rel ≠ some (.link target))
    (outside : ¬ other <+: disk.start path) : (disk.put other new).Reaches path place where
  linkless := reaches.linkless.put linkless other
  seated := by
    by_cases behind : disk.start path <+: other
    · exact node?_put_above behind fun same => outside (same ▸ List.prefix_refl _)
    · rw [← reaches.seated, node?, node?]
      exact congrArg _ (get?_put_of_apart outside behind)
  leads := reaches.leads

theorem Reaches.put_self (reaches : disk.Reaches path place) {new : FileTree}
    (linkless : ∀ rel target, new.get? rel ≠ some (.link target)) :
    (disk.put place new).Reaches path place :=
  reaches.put linkless reaches.start_isPrefix.2

/-- A name joined to a path leads one step further. -/
theorem Reaches.join (reaches : disk.Reaches path place) {name : String} (isName : IsName name) :
    disk.Reaches (path.join name) (place ++ [name]) where
  linkless := reaches.linkless.append [name]
  seated := by
    obtain ⟨-, seated, leads⟩ := reaches
    cases leads with
    | spelled absolute some proper =>
      rw [start_spell some proper] at seated
      rw [join_spell some proper isName, start_spell (by simp)
        (List.forall_mem_append.2 ⟨proper, List.forall_mem_singleton.2 isName⟩), seated]
  leads := reaches.leads.join isName

/-- Names joined one after the other lead further and further. -/
theorem Reaches.below (reaches : disk.Reaches path place) {rel : List String}
    (proper : ∀ name ∈ rel, IsName name) : disk.Reaches (path.below rel) (place ++ rel) := by
  induction rel generalizing path place with
  | nil => rwa [List.append_nil]
  | cons name rel ih =>
    obtain ⟨isName, proper⟩ := List.forall_mem_cons.1 proper
    rw [List.append_cons]
    exact ih (reaches.join isName) proper

/-- A name is a path for the entry of that name in the current directory. -/
theorem reaches_name {name : String} (linkless : Linkless disk.tree (disk.current ++ [name]))
    (seated : disk.tree.node? disk.current = some .dir) (isName : IsName name) :
    disk.Reaches ⟨name⟩ (disk.current ++ [name]) := by
  have some : [name] ≠ [] := List.cons_ne_nil name []
  have proper : ∀ other ∈ [name], IsName other := List.forall_mem_singleton.2 isName
  have spelled : spell false [name] = ⟨name⟩ := congrArg Path.mk (text_spell_singleton name)
  rw [← spelled]
  exact ⟨linkless, (start_spell some proper).symm ▸ seated, .spelled false some proper⟩

/-- Where a path leads does not depend on the order of the entries. -/
theorem Resembles.reaches {other : Disk} (resembles : disk.Resembles other)
    (reaches : disk.Reaches path place) : other.Reaches path place where
  linkless := reaches.linkless.of_links fun seat target => by
    rw [← node?_eq_link_iff, resembles.seen, node?_eq_link_iff]
    exact id
  seated := by
    rw [resembles.seen, start, resembles.current]
    exact reaches.seated
  leads := resembles.current ▸ reaches.leads

theorem Resembles.put {other : Disk} (resembles : disk.Resembles other) {new new' : FileTree}
    (same : ∀ rel, new'.node? rel = new.node? rel) (place : List String) :
    (disk.put place new).Resembles (other.put place new') where
  current := resembles.current
  seen seat := by
    rw [Disk.put, Disk.put]
    by_cases before : place <+: seat
    · obtain ⟨rest, rfl⟩ := before
      rw [node?, node?, get?_put_append, get?_put_append]
      exact same rest
    by_cases behind : seat <+: place
    · have differ : seat ≠ place := fun same => before (same ▸ List.prefix_refl _)
      rw [node?_put_above behind differ, node?_put_above behind differ]
    · rw [node?, node?, get?_put_of_apart before behind, get?_put_of_apart before behind]
      exact resembles.seen seat

theorem linkless_file (held : File) (place : List String) (target : String) :
    (FileTree.file held).get? place ≠ some (.link target) := by
  cases place <;> simp [get?_cons, get?_nil, FileTree.entries, Entries.find?]

theorem linkless_empty (place : List String) (target : String) :
    empty.get? place ≠ some (.link target) := by
  cases place <;> simp [get?_cons, get?_nil, empty, FileTree.entries, Entries.find?]

/-! ## The last name of a path -/

section

variable {above : List String} {name : String} (reaches : disk.Reaches path (above ++ [name]))

include reaches

/-- The steps of a path, with the last one in front, and where those before it lead. -/
theorem slotOf_cases : IsName name ∧ path.steps.getLast? = some name ∧ ∃ before,
    path.steps.reverse.dropWhile (· = "") = name :: before ∧
    (disk.tree.node? above = some .dir →
      slotOf disk.tree (disk.start path) before.reverse name = .ok (above ++ [name])) ∧
    (disk.tree.get? above = none → Open disk.tree above →
      slotOf disk.tree (disk.start path) before.reverse name = .error .notFound) ∧
    (¬ Open disk.tree (above ++ [name]) →
      slotOf disk.tree (disk.start path) before.reverse name = .error .notADirectory) := by
  obtain ⟨linkless, seated, leads⟩ := reaches
  obtain ⟨absolute, names, last, rfl, place_eq, proper, isName⟩ := leads.exists_concat
  obtain ⟨rfl, same⟩ := List.append_inj' place_eq rfl
  obtain rfl : name = last := (List.cons.inj same).1
  have proper' : ∀ other ∈ names ++ [name], IsName other :=
    List.forall_mem_append.2 ⟨proper, List.forall_mem_singleton.2 isName⟩
  have steps : (spell absolute (names ++ [name])).steps = _ := steps_spell (by simp) proper'
  have base : disk.start (spell absolute (names ++ [name])) =
      if absolute then [] else disk.current := start_spell (by simp) proper'
  have clear := linkless.way.init
  rw [base] at seated
  rw [← List.append_assoc] at steps
  refine ⟨isName, by rw [steps, List.getLast?_concat],
    ((if absolute then [""] else []) ++ names).reverse, ?_, ?_, ?_, ?_⟩
  · rw [steps, List.reverse_concat, List.dropWhile_cons_of_neg (by simpa using isName.ne_empty)]
  · intro isDir
    obtain ⟨entries, here⟩ := node?_eq_dir_iff.1 isDir
    have short : ¬ maxName < name.utf8ByteSize := Nat.not_lt.2 isName.short
    rw [slotOf, base, List.reverse_reverse, follow_found seated clear proper maxLinks here]
    simp [bind, Except.bind, here, short]
  · intro missing way
    obtain ⟨e, follow, kind, -⟩ := follow_missing seated clear proper maxLinks missing
    rw [slotOf, base, List.reverse_reverse, follow, kind way]
    rfl
  · intro blocked
    cases here : disk.tree.get? ((if absolute then [] else disk.current) ++ names) with
    | none =>
      have blocked' := fun way => blocked (way_of_missing here way)
      obtain ⟨e, follow, -, kind⟩ := follow_missing seated clear proper maxLinks here
      rw [slotOf, base, List.reverse_reverse, follow, kind blocked']
      rfl
    | some held =>
      rw [slotOf, base, List.reverse_reverse, follow_found seated clear proper maxLinks here]
      cases held with
      | dir entries => exact absurd (open_of_isDir (node?_eq_dir_iff.2 ⟨entries, here⟩)) blocked
      | file | link => simp [bind, Except.bind, here]

omit reaches in
theorem settle_of_stays {tree : FileTree} {links : Nat}
    (stays : ∀ target, tree.get? place ≠ some (.link target)) :
    settle tree links place = .ok place := by
  rw [settle]
  split
  · next link => exact absurd link (stays _)
  · rfl

theorem slot_of_isDir (fits : Fits path) (parent : disk.tree.node? above = some .dir) :
    disk.slot path = .ok (above ++ [name]) := by
  obtain ⟨isName, last, before, steps, found, -⟩ := slotOf_cases reaches
  rw [slot, checked_of_fits reaches.leads fits, steps]
  simp [bind, Except.bind, found parent, last, isName.ne_here, isName.ne_back, isName.ne_empty]

theorem target_of_isDir (fits : Fits path) (parent : disk.tree.node? above = some .dir) :
    disk.target path = .ok (above ++ [name]) := by
  rw [target, slot_of_isDir reaches fits parent]
  exact settle_of_stays reaches.linkless.here

theorem target_of_not_fits (long : ¬ Fits path) : ∃ e, disk.target path = .error e := by
  refine ⟨.nameTooLong, ?_⟩
  rw [target, slot, checked_of_not_fits reaches.leads long]
  rfl

theorem makeDir_of_not_fits (long : ¬ Fits path) : disk.makeDir path = .error .nameTooLong := by
  rw [makeDir, checked_of_not_fits reaches.leads long]
  rfl

/-- A directory is made in one that is there, if its place is free. -/
theorem makeDir_of_isDir (fits : Fits path) (parent : disk.tree.node? above = some .dir) :
    disk.makeDir path =
      if (disk.tree.get? (above ++ [name])).isSome then .error .alreadyExists
      else .ok (disk.put (above ++ [name]) .empty) := by
  obtain ⟨isName, -, before, steps, found, -⟩ := slotOf_cases reaches
  rw [makeDir, checked_of_fits reaches.leads fits, steps]
  simp [bind, Except.bind, found parent, isName.ne_here, isName.ne_back]

theorem makeDir_of_missing (fits : Fits path) (missing : disk.tree.get? above = none)
    (way : Open disk.tree above) : disk.makeDir path = .error .notFound := by
  obtain ⟨-, -, before, steps, -, fails, -⟩ := slotOf_cases reaches
  rw [makeDir, checked_of_fits reaches.leads fits, steps]
  simp [bind, Except.bind, fails missing way]

theorem makeDir_of_blocked (fits : Fits path) (blocked : ¬ Open disk.tree (above ++ [name])) :
    disk.makeDir path = .error .notADirectory := by
  obtain ⟨-, -, before, steps, -, -, fails⟩ := slotOf_cases reaches
  rw [makeDir, checked_of_fits reaches.leads fits, steps]
  simp [bind, Except.bind, fails blocked]

end

/-! ## Directories -/

theorem isDir_iff (reaches : disk.Reaches path place) :
    disk.isDir path ↔ Fits path ∧ disk.tree.node? place = some .dir := by
  rw [node?_eq_dir_iff, Disk.isDir]
  constructor
  · intro isDir
    split at isDir
    · next entries found =>
      obtain ⟨fits, here⟩ := (find_eq_ok_iff reaches).1 found
      exact ⟨fits, entries, here⟩
    · cases isDir
  · rintro ⟨fits, entries, here⟩
    rw [(find_eq_ok_iff reaches).2 ⟨fits, here⟩]

section

variable {fuel : Nat} {made : Disk} (some : path.text ≠ "")

include some

theorem createUpTo_of_made (make : disk.makeDir path = .ok made) :
    createUpTo (fuel + 1) disk path = .ok made := by
  simp [createUpTo, some, make]

theorem createUpTo_of_refused {e : FileError} (make : disk.makeDir path = .error e)
    (e_ne : e ≠ .notFound) :
    createUpTo (fuel + 1) disk path = if disk.isDir path then .ok disk else .error e := by
  simp [createUpTo, some, make, e_ne]

theorem createUpTo_of_notFound {above : Disk} (make : disk.makeDir path = .error .notFound)
    (parent : createUpTo fuel disk path.parent = .ok above)
    (make' : above.makeDir path = .ok made) :
    createUpTo (fuel + 1) disk path = .ok made := by
  simp [createUpTo, some, make, parent, make', bind, Except.bind]

end

/-- Above a place to which the way is free there is a directory or nothing. -/
theorem isDir_or_missing {above : List String} {name : String}
    (clear : Clear disk.tree (above ++ [name])) (way : Open disk.tree (above ++ [name])) :
    disk.tree.node? above = some .dir ∨ disk.tree.get? above = none := by
  rw [← node?_eq_none_iff]
  cases here : disk.tree.node? above with
  | none => exact .inr rfl
  | some node =>
    cases node with
    | dir => exact .inl rfl
    | link target =>
      exact absurd (node?_eq_link_iff.1 here) (clear.init above (List.prefix_refl _) target)
    | file held => exact absurd here (way above (List.prefix_append _ _) (by simp) held)

/-- A directory in a new one. -/
theorem makeDir_below {above : List String} {name : String}
    (reaches : disk.Reaches path (above ++ [name])) (fits : Fits path)
    (missing : disk.tree.get? above = none) :
    (disk.put above .empty).makeDir path = .ok (disk.put (above ++ [name]) .empty) := by
  have outside : ¬ above <+: disk.start path := by
    rintro ⟨rest, start⟩
    obtain ⟨entries, here⟩ := node?_eq_dir_iff.1 reaches.seated
    rw [← start, get?_of_missing missing] at here
    cases here
  have parent : (disk.put above .empty).tree.node? above = some .dir :=
    node?_eq_dir_iff.2 ⟨[], get?_put_self disk.tree .empty above⟩
  have missing' : (disk.put above .empty).tree.get? (above ++ [name]) = none :=
    get?_put_append disk.tree .empty above [name]
  have same : (disk.put above .empty).put (above ++ [name]) .empty =
      disk.put (above ++ [name]) .empty := by
    rw [Disk.put, Disk.put, put_append, ← put_of_missing missing, Disk.put]
  rw [makeDir_of_isDir (reaches.put linkless_empty outside) fits parent, missing', same]
  rfl

/-- There is room for a new directory: nothing has its place, and it is in a directory that is
there. -/
structure Vacant (disk : Disk) (path : Path) (place : List String) : Prop where
  fits : Fits path
  fresh : disk.tree.get? place = none
  parent : disk.tree.node? place.dropLast = some .dir

/-- What is put where there was room is to be seen there and nowhere else. -/
theorem Vacant.node?_put (vacant : disk.Vacant path place) (new : FileTree) {other : List String}
    (outside : ¬ place <+: other) :
    (disk.put place new).tree.node? other = disk.tree.node? other := by
  have some : place ≠ [] := by
    rintro rfl
    cases (get?_nil disk.tree).symm.trans vacant.fresh
  obtain ⟨above, name, rfl⟩ := place.eq_nil_or_concat'.resolve_left some
  have parent := vacant.parent
  rw [List.dropLast_concat] at parent
  exact node?_put_of_not_isPrefix parent outside

/-- A directory is made exactly if there is room for it. -/
theorem makeDir_eq_ok_iff (reaches : disk.Reaches path place) {made : Disk} :
    disk.makeDir path = .ok made ↔ disk.Vacant path place ∧ made = disk.put place .empty := by
  have refused {e : FileError} (fails : disk.makeDir path = .error e)
      (full : ¬ disk.Vacant path place) : disk.makeDir path = .ok made ↔
        disk.Vacant path place ∧ made = disk.put place .empty := by
    rw [fails]
    exact ⟨nofun, fun ⟨vacant, _⟩ => absurd vacant full⟩
  obtain ⟨absolute, names, name, -, place_eq, -⟩ := reaches.leads.exists_concat
  generalize (if absolute then [] else disk.current) ++ names = above at place_eq
  subst place_eq
  by_cases fits : Fits path
  swap
  · exact refused (makeDir_of_not_fits reaches fits) fun vacant => fits vacant.fits
  by_cases parent : disk.tree.node? above = some .dir
  · have make := makeDir_of_isDir reaches fits parent
    cases here : disk.tree.get? (above ++ [name]) with
    | some held =>
      rw [here] at make
      exact refused make fun vacant => by cases here.symm.trans vacant.fresh
    | none =>
      have vacant : disk.Vacant path (above ++ [name]) :=
        ⟨fits, here, by rwa [List.dropLast_concat]⟩
      rw [make, here, and_iff_right vacant, Option.isSome_none, if_neg Bool.false_ne_true,
        Except.ok.injEq]
      exact eq_comm
  · have full : ¬ disk.Vacant path (above ++ [name]) := by
      intro vacant
      have isDir := vacant.parent
      rw [List.dropLast_concat] at isDir
      exact parent isDir
    by_cases way : Open disk.tree (above ++ [name])
    · have missing := (isDir_or_missing reaches.linkless.way way).resolve_left parent
      exact refused (makeDir_of_missing reaches fits missing way.above) full
    · exact refused (makeDir_of_blocked reaches fits way) full

theorem makeScratch_eq_ok_iff {made : Disk} : disk.makeScratch = .ok (path, made) ↔
    disk.scratch = .ok path ∧ disk.makeDir path = .ok made := by
  simp only [makeScratch, bind_eq_ok_iff, pure, Except.pure, Except.ok.injEq, Prod.mk.injEq]
  constructor
  · rintro ⟨_, given, _, make, rfl, rfl⟩
    exact ⟨given, make⟩
  · rintro ⟨given, make⟩
    exact ⟨path, given, made, make, rfl, rfl⟩

/-- By induction on the fuel: what is missing above is made first. -/
theorem createUpTo_of_missing {absolute : Bool}
    (base : disk.tree.node? (if absolute then [] else disk.current) = some .dir)
    {names : List String}
    (clear : Clear disk.tree ((if absolute then [] else disk.current) ++ names))
    (some : names ≠ []) (proper : ∀ name ∈ names, IsName name) (fits : Fits (spell absolute names))
    (missing : disk.tree.get? ((if absolute then [] else disk.current) ++ names) = none)
    (way : Open disk.tree ((if absolute then [] else disk.current) ++ names)) {fuel : Nat}
    (enough : names.length ≤ fuel) :
    createUpTo fuel disk (spell absolute names) =
      .ok (disk.put ((if absolute then [] else disk.current) ++ names) .empty) := by
  induction fuel generalizing names with
  | zero => exact absurd (List.eq_nil_of_length_eq_zero (Nat.le_zero.1 enough)) some
  | succ fuel ih =>
    have reaches : disk.Reaches _ _ :=
      ⟨.of_missing clear missing, (start_spell some proper).symm ▸ base,
        .spelled absolute some proper⟩
    obtain ⟨names, name, rfl⟩ := names.eq_nil_or_concat'.resolve_left some
    obtain ⟨proper, isName⟩ := List.forall_mem_append.1 proper
    have isName := isName name (List.mem_singleton_self name)
    rw [← List.append_assoc] at reaches missing clear way ⊢
    obtain parent | missing' := isDir_or_missing clear way
    · refine createUpTo_of_made reaches.leads.text_ne_empty ?_
      rw [makeDir_of_isDir reaches fits parent, missing]
      rfl
    · have some : names ≠ [] := by
        rintro rfl
        rw [List.append_nil, ← node?_eq_none_iff, base] at missing'
        cases missing'
      have leads : Leads disk.current _ _ := .spelled absolute some proper
      have shorter := leads.size_lt_join isName
      rw [join_spell some proper isName] at shorter
      have fits' := Nat.le_of_lt (Nat.lt_of_lt_of_le shorter fits)
      have above := ih clear.init some proper fits' missing' way.above (by simpa using enough)
      rw [← parent_spell some proper isName] at above
      exact createUpTo_of_notFound reaches.leads.text_ne_empty
        (makeDir_of_missing reaches fits missing' way.above) above
        (makeDir_below reaches fits missing')

section

variable (reaches : disk.Reaches path place)

include reaches

theorem createDirs_of_missing (fits : Fits path) (missing : disk.tree.get? place = none)
    (way : Open disk.tree place) : disk.createDirs path = .ok (disk.put place .empty) := by
  obtain ⟨linkless, seated, leads⟩ := reaches
  cases leads with
  | spelled absolute some proper =>
    rw [start_spell some proper] at seated
    refine createUpTo_of_missing seated linkless.way some proper fits missing way ?_
    rw [steps_spell some proper, List.length_append]
    omega

/-- What is there already is kept if it is a directory, and is in the way if it is none. -/
theorem createDirs_of_get? (fits : Fits path) {held : FileTree}
    (here : disk.tree.get? place = some held) : disk.createDirs path =
      if disk.isDir path then .ok disk else .error .alreadyExists := by
  obtain ⟨absolute, names, name, -, rfl, -⟩ := reaches.leads.exists_concat
  have parent := node?_of_append here
  refine createUpTo_of_refused reaches.leads.text_ne_empty ?_ nofun
  rw [makeDir_of_isDir reaches fits parent, here]
  rfl

theorem createDirs_of_blocked (fits : Fits path) (blocked : ¬ Open disk.tree place) :
    disk.createDirs path = .error .notADirectory := by
  have notDir : disk.isDir path = false := by
    rw [← Bool.not_eq_true, isDir_iff reaches]
    rintro ⟨-, isDir⟩
    obtain ⟨entries, here⟩ := node?_eq_dir_iff.1 isDir
    refine blocked fun above isPrefix differ held isFile => ?_
    rw [node?_of_isPrefix isPrefix differ here] at isFile
    cases isFile
  obtain ⟨absolute, names, name, -, rfl, -⟩ := reaches.leads.exists_concat
  rw [createDirs, createUpTo_of_refused reaches.leads.text_ne_empty
    (makeDir_of_blocked reaches fits blocked) nofun, notDir]
  rfl

theorem createDirs_of_not_fits (long : ¬ Fits path) :
    disk.createDirs path = .error .nameTooLong := by
  obtain ⟨absolute, names, name, -, rfl, -⟩ := reaches.leads.exists_concat
  have notDir : disk.isDir path = false := by
    rw [← Bool.not_eq_true, isDir_iff reaches]
    exact fun here => long here.1
  rw [createDirs, createUpTo_of_refused reaches.leads.text_ne_empty
    (makeDir_of_not_fits reaches long) nofun, notDir]
  rfl

end

/-! ## Files -/

section

variable {above : List String} {name : String} (reaches : disk.Reaches path (above ++ [name]))
  (fits : Fits path) (parent : disk.tree.node? above = some .dir)

include reaches fits parent

theorem write_of_missing (missing : disk.tree.get? (above ++ [name]) = none) (content : Bytes) :
    disk.write path content = .ok (disk.put (above ++ [name]) (.file { content })) := by
  rw [write, target_of_isDir reaches fits parent]
  simp [bind, Except.bind, missing]

theorem write_of_free (free : disk.tree.node? (above ++ [name]) ≠ some .dir) (content : Bytes) :
    ∃ held, disk.write path content = .ok (disk.put (above ++ [name]) (.file held)) := by
  cases here : disk.tree.get? (above ++ [name]) with
  | none => exact ⟨_, write_of_missing reaches fits parent here content⟩
  | some old =>
    cases old with
    | file old =>
      rw [write, target_of_isDir reaches fits parent]
      exact ⟨{ old with content }, by simp [bind, Except.bind, here]⟩
    | dir entries => exact absurd (node?_eq_dir_iff.2 ⟨entries, here⟩) free
    | link target => exact absurd here (reaches.linkless.here target)

theorem write_of_isDir (isDir : disk.tree.node? (above ++ [name]) = some .dir) (content : Bytes) :
    disk.write path content = .error .isADirectory := by
  obtain ⟨entries, here⟩ := node?_eq_dir_iff.1 isDir
  rw [write, target_of_isDir reaches fits parent]
  simp [bind, Except.bind, here]

omit parent in
/-- A file that was put at a place is still found under its path. -/
theorem target_of_put (held : File) :
    (disk.put (above ++ [name]) (.file held)).target path = .ok (above ++ [name]) := by
  refine target_of_isDir (reaches.put_self (linkless_file held)) fits ?_
  exact node?_put_above (List.prefix_append _ _) (by simp)

end

/-! ## Directories taken away -/

/-- An empty directory goes, and with it its entry in the directory above. -/
theorem removeDir_of_empty {above : List String} {name : String} {entries : Entries}
    (reaches : disk.Reaches path (above ++ [name])) (fits : Fits path)
    (parent : disk.tree.get? above = some (.dir entries))
    (here : disk.tree.get? (above ++ [name]) = some (.dir [])) :
    disk.removeDir path = .ok (disk.put above (.dir (entries.erase name))) := by
  have isDir : disk.tree.node? above = some .dir := node?_eq_dir_iff.2 ⟨entries, parent⟩
  rw [removeDir, slot_of_isDir reaches fits isDir]
  simp only [bind, Except.bind, here, remove_concat parent]
  rfl

/-! ## One change after the other -/

section

variable {α β : Type} {x : EStateM FileError Disk α} {after : Disk}
  (f : α → EStateM FileError Disk β)

theorem bind_of_ok {value : α} (run : x disk = .ok value after) :
    (x >>= f) disk = f value after := by
  simp [bind, EStateM.bind, run]

theorem bind_of_error {e : FileError} (run : x disk = .error e after) :
    (x >>= f) disk = .error e after := by
  simp [bind, EStateM.bind, run]

end

/-- What is done with the entries of a directory, if it can be read. -/
theorem entries_bind {β : Type} (path : Path) (disk : Disk)
    (f : Entries → EStateM FileError Disk β) :
    (do f (← MonadExcept.ofExcept (Disk.entries (← get) path))) disk =
      match disk.entries path with
      | .error e => .error e disk
      | .ok entries => f entries disk := by
  change (MonadExcept.ofExcept (disk.entries path) >>= f) disk = _
  cases disk.entries path <;> rfl

end AssetSeed.Disk
