import AssetSeed.Proofs.Files.Disk

/-!
# Paths that lead through links

A path is followed as a row of steps, links or not: what is found under a name in a directory is
found under the path of the directory with the name joined to it. Where a path leads depends only on
what is to be seen at places, not on the order in which directories list their entries.

## Main definitions

* `Path.Before` — paths compared name by name.
* `FileTree.Listable` — every directory lists each entry once, under a name that it can have.

## Main statements

* `Path.exists_join_base`, `Path.join_before_join_iff` — names joined to one path.
* `Disk.follow_append` — one row of steps after the other.
* `Disk.find_join` — an entry of a directory is found under its path, if this is not too long.
* `Disk.Resembles.find`, `Disk.Resembles.entries` — what is found on disks that resemble each other.
-/

namespace AssetSeed

/-! ## Names joined to a path -/

namespace Path

open Text FileTree

variable {dir : Path}

/-- Whatever name is joined to a path, the same stands in front of it, up to the last slash. -/
theorem exists_join_base (some : dir.text ≠ "") : ∃ base,
    (dir.text.toList = base ∨ dir.text.toList = base ++ ['/']) ∧
    ∀ name, IsName name → (dir.join name).text.toList = base ++ '/' :: name.toList := by
  have inhabited : dir.text.isEmpty = false := by simpa using some
  by_cases slash : endsWith ['/'] dir.text.toList
  · obtain ⟨base, ending⟩ := List.isSuffixOf_iff_suffix.1 slash
    refine ⟨base, .inr ending.symm, fun name isName => ?_⟩
    rw [join, isAbsolute_eq_false isName, slash, inhabited]
    simp [← ending]
  · refine ⟨dir.text.toList, .inl rfl, fun name isName => ?_⟩
    rw [join, isAbsolute_eq_false isName, eq_false_of_ne_true slash, inhabited]
    simp

theorem exists_steps_join (some : dir.text ≠ "") : ∃ base,
    (dir.steps = base ∨ dir.steps = base ++ [""]) ∧
    ∀ name, IsName name → (dir.join name).steps = base ++ [name] := by
  obtain ⟨text, ending, joined⟩ := exists_join_base some
  refine ⟨(split (· = '/') text).map String.ofList, ?_, fun name isName => ?_⟩
  · obtain same | slash := ending
    · exact .inl (by rw [steps, same])
    · exact .inr (by rw [steps, slash, split_append_sep (by simp), List.map_append]; rfl)
  · rw [steps, joined name isName, split_append_sep (by simp), split_of_not_mem isName.slashless]
    simp

/-- Paths are compared name by name. -/
def Before (path other : Path) : Prop :=
  List.Lex (· < ·) path.steps other.steps

/-- Paths of one directory are in the order of their last names. -/
theorem join_before_join_iff (some : dir.text ≠ "") {name other : String} (isName : IsName name)
    (isName' : IsName other) : (dir.join name).Before (dir.join other) ↔ name < other := by
  have cancel (base : List String) :
      List.Lex (· < ·) (base ++ [name]) (base ++ [other]) ↔ name < other := by
    induction base with
    | nil =>
      rw [List.nil_append, List.nil_append, List.cons_lex_cons_iff]
      exact or_iff_left fun ⟨_, more⟩ => nomatch more
    | cons step base ih =>
      rw [List.cons_append, List.cons_append, List.cons_lex_cons_iff, ih,
        or_iff_right (String.lt_irrefl step), and_iff_right rfl]
  obtain ⟨base, -, joined⟩ := exists_steps_join some
  rw [Before, joined name isName, joined other isName', cancel]

theorem isAbsolute_join (some : dir.text ≠ "") {name : String} (isName : IsName name) :
    (dir.join name).isAbsolute = dir.isAbsolute := by
  obtain ⟨base, ending, joined⟩ := exists_join_base some
  rw [isAbsolute, isAbsolute, joined name isName]
  cases base with
  | nil =>
    obtain empty | slash := ending
    · exact absurd (by simpa using empty) some
    · rw [slash]
      rfl
  | cons c base =>
    obtain same | slash := ending
    · rw [same]
      rfl
    · rw [slash]
      rfl

end Path

/-! ## Following steps -/

/-- Every directory lists each entry once, under a name that an entry can have. There may be
links. -/
structure FileTree.Listable (tree : FileTree) : Prop where
  distinct : ∀ place entries, tree.get? place = some (.dir entries) →
    (entries.map Prod.fst).Nodup
  named : ∀ place entries, tree.get? place = some (.dir entries) →
    ∀ entry ∈ entries, FileTree.IsName entry.1

theorem FileTree.Plain.listable {tree : FileTree} (plain : tree.Plain) : tree.Listable :=
  ⟨plain.distinct, plain.named⟩

namespace Disk

open FileTree

section

variable {tree : FileTree} {links : Nat}
  {jump : (place steps : List String) → Except FileError Arrival}

/-- The rest of a row is followed from where the steps before it have led. -/
theorem walk_append (unfolded : follow tree links = walk tree links jump) {more : List String}
    (onward : ∀ place steps, jump place (steps ++ more) =
      jump place steps >>= fun arrival => follow tree arrival.links arrival.place more)
    (place steps : List String) : walk tree links jump place (steps ++ more) =
      walk tree links jump place steps >>= fun arrival =>
        follow tree arrival.links arrival.place more := by
  induction steps generalizing place with
  | nil =>
    rw [List.nil_append, walk]
    exact (congrFun (congrFun unfolded place) more).symm
  | cons step rest ih =>
    rw [List.cons_append, walk, walk]
    cases tree.get? place with
    | none => rfl
    | some here =>
      cases here with
      | file | link => rfl
      | dir entries =>
        dsimp only
        split_ifs
        · exact ih place
        · exact ih place.dropLast
        · rfl
        · cases Entries.find? entries step with
          | none => rfl
          | some below =>
            cases below with
            | file | dir => exact ih (place ++ [step])
            | link target =>
              have later := onward (startFrom place ⟨target⟩) (Path.steps ⟨target⟩ ++ rest)
              rw [List.append_assoc] at later
              exact later

theorem follow_append (links : Nat) (place steps more : List String) :
    follow tree links place (steps ++ more) =
      follow tree links place steps >>= fun arrival =>
        follow tree arrival.links arrival.place more := by
  induction links generalizing place steps with
  | zero => exact walk_append rfl (fun _ _ => rfl) place steps
  | succ links ih => exact walk_append rfl ih place steps

/-- What a step does is to be seen at the place and at that of the entry. -/
theorem walk_eq_node? (place : List String) (step : String) (rest : List String) :
    walk tree links jump place (step :: rest) =
      match tree.node? place with
      | none => .error .notFound
      | some .dir =>
        if step = "" || step = "." then walk tree links jump place rest
        else if step = ".." then walk tree links jump place.dropLast rest
        else if maxName < step.utf8ByteSize then .error .nameTooLong
        else
          match tree.node? (place ++ [step]) with
          | none => .error .notFound
          | some (.link target) => jump (startFrom place ⟨target⟩) (Path.steps ⟨target⟩ ++ rest)
          | some _ => walk tree links jump (place ++ [step]) rest
      | some _ => .error .notADirectory := by
  rw [walk, node?, node?, get?_append]
  cases tree.get? place with
  | none => rfl
  | some here =>
    cases here with
    | file | link => rfl
    | dir entries =>
      simp only [Option.map_some, FileTree.node, Option.bind_some, get?_dir_singleton]
      cases Entries.find? entries step with
      | none => rfl
      | some below => cases below <;> rfl

/-- By induction on the steps: places at which the same is to be seen are left the same way. -/
theorem walk_congr {other : FileTree} (seen : ∀ place, other.node? place = tree.node? place)
    (place steps : List String) : walk other links jump place steps =
      walk tree links jump place steps := by
  induction steps generalizing place with
  | nil => rw [walk, walk]
  | cons step rest ih => simp only [walk_eq_node?, seen, ih]

theorem follow_congr {other : FileTree} (seen : ∀ place, other.node? place = tree.node? place)
    (links : Nat) : follow other links = follow tree links := by
  funext place steps
  induction links generalizing place steps with
  | zero => exact walk_congr seen place steps
  | succ links ih =>
    rw [follow, follow, show follow other links = follow tree links from funext₂ ih]
    exact walk_congr seen place steps

end

/-! ## What is found -/

variable {disk other : Disk} {dir path : Path} {entries : Entries} {name : String}

theorem checked_eq_ok_iff : checked path = .ok () ↔
    path.text ≠ "" ∧ '\x00' ∉ path.text.toList ∧ Fits path := by
  rw [checked, Fits]
  split_ifs with empty zero long
  · simp [String.isEmpty_iff.1 empty]
  · simp [List.contains_iff_mem.1 zero]
  · simp [Nat.not_le.2 long]
  · simpa using ⟨mt String.isEmpty_iff.2 empty, mt List.contains_iff_mem.2 zero, Nat.not_lt.1 long⟩

/-- A path leads to what is at the end of its steps. -/
theorem find_eq (path : Path) : disk.find path = checked path >>= fun _ =>
    follow disk.tree maxLinks (disk.start path) path.steps >>= fun arrival =>
      match disk.tree.get? arrival.place with
      | some tree => .ok tree
      | none => .error .notFound := by
  rw [find, place]
  cases checked path with
  | error e => rfl
  | ok => cases follow disk.tree maxLinks (disk.start path) path.steps <;> rfl

theorem find_eq_ok_iff_follow {held : FileTree} : disk.find path = .ok held ↔
    checked path = .ok () ∧ ∃ arrival,
      follow disk.tree maxLinks (disk.start path) path.steps = .ok arrival ∧
        disk.tree.get? arrival.place = some held := by
  rw [find_eq]
  cases checked path with
  | error e => simp [bind, Except.bind]
  | ok =>
    cases follow disk.tree maxLinks (disk.start path) path.steps with
    | error e => simp [bind, Except.bind]
    | ok arrival => cases here : disk.tree.get? arrival.place <;> simp [bind, Except.bind, here]

theorem entries_eq_ok_iff_find : disk.entries path = .ok entries ↔
    disk.find path = .ok (.dir entries) := by
  rw [Disk.entries]
  cases disk.find path with
  | error e => simp [bind, Except.bind]
  | ok held => cases held <;> simp [bind, Except.bind]

section

variable {tree : FileTree} {links : Nat} {place : List String}

/-- A slash at the end of a path changes nothing, except that there has to be a directory. -/
theorem eq_of_follow_slash {arrival : Arrival} (led : follow tree links place [""] = .ok arrival) :
    arrival = ⟨place, links⟩ := by
  obtain ⟨jump, unfold⟩ := follow_unfold tree links
  rw [unfold, walk] at led
  split at led
  · cases led
  · rw [if_pos (by simp), walk] at led
    exact (Except.ok.inj led).symm
  · cases led

/-- A step to an entry that is no link. -/
theorem follow_entry (here : tree.get? place = some (.dir entries)) (isName : IsName name)
    {held : FileTree} (entry : entries.find? name = some held)
    (stays : ∀ target, held ≠ .link target) :
    follow tree links place [name] = .ok ⟨place ++ [name], links⟩ := by
  obtain ⟨jump, unfold⟩ := follow_unfold tree links
  rw [unfold, walk_cons here isName, entry]
  cases held with
  | link target => exact absurd rfl (stays target)
  | file | dir => exact walk.eq_1 ..

end

/-- The path of a directory, before names are joined to it. -/
theorem exists_base (read : disk.entries dir = .ok entries) : ∃ base arrival,
    follow disk.tree maxLinks (disk.start dir) base = .ok arrival ∧
      disk.tree.get? arrival.place = some (.dir entries) ∧
      ∀ name, IsName name → (dir.join name).steps = base ++ [name] := by
  obtain ⟨check, arrival, led, here⟩ := find_eq_ok_iff_follow.1 (entries_eq_ok_iff_find.1 read)
  obtain ⟨base, ending, joined⟩ := Path.exists_steps_join (checked_eq_ok_iff.1 check).1
  refine ⟨base, arrival, ?_, here, joined⟩
  obtain same | slash := ending
  · rwa [same] at led
  · rw [slash, follow_append] at led
    cases ahead : follow disk.tree maxLinks (disk.start dir) base with
    | error e => rw [ahead] at led; cases led
    | ok before =>
      rw [ahead] at led
      rw [eq_of_follow_slash led]

theorem checked_join (check : checked dir = .ok ()) (isName : IsName name)
    (fits : Fits (dir.join name)) : checked (dir.join name) = .ok () := by
  obtain ⟨some, zeroless, -⟩ := checked_eq_ok_iff.1 check
  obtain ⟨base, ending, joined⟩ := Path.exists_join_base some
  have zeroless' : '\x00' ∉ base := by
    obtain same | slash := ending
    · rwa [same] at zeroless
    · rw [slash] at zeroless
      exact fun mem => zeroless (List.mem_append_left _ mem)
  refine checked_eq_ok_iff.2 ⟨?_, ?_, fits⟩
  · intro empty
    have nothing := joined name isName
    simp [empty] at nothing
  · rw [joined name isName]
    simp [zeroless', isName.zeroless]

/-- An entry of a directory is found under the path of the directory with the name joined to it. -/
theorem find_join (read : disk.entries dir = .ok entries) (isName : IsName name)
    (fits : Fits (dir.join name)) {held : FileTree} (entry : entries.find? name = some held)
    (stays : ∀ target, held ≠ .link target) : disk.find (dir.join name) = .ok held := by
  obtain ⟨check, -⟩ := find_eq_ok_iff_follow.1 (entries_eq_ok_iff_find.1 read)
  obtain ⟨base, arrival, led, here, joined⟩ := exists_base read
  have start : disk.start (dir.join name) = disk.start dir := by
    rw [start, start, startFrom, startFrom,
      Path.isAbsolute_join (checked_eq_ok_iff.1 check).1 isName]
  refine find_eq_ok_iff_follow.2 ⟨checked_join check isName fits,
    ⟨arrival.place ++ [name], arrival.links⟩, ?_, ?_⟩
  · rw [start, joined name isName, follow_append, led]
    exact follow_entry here isName entry stays
  · rw [get?_below here, get?_dir_singleton, entry]

/-! ## What is to be seen -/

theorem map_node_eq_file_iff {found : Except FileError FileTree} {held : File} :
    found.map FileTree.node = .ok (.file held) ↔ found = .ok (.file held) := by
  cases found <;> simp [Except.map, node_eq_file_iff]

theorem map_node_eq_dir_iff {found : Except FileError FileTree} :
    found.map FileTree.node = .ok .dir ↔ ∃ entries, found = .ok (.dir entries) := by
  cases found <;> simp [Except.map, node_eq_dir_iff]

/-- All of a tree is to be seen unless it is a directory. -/
theorem eq_of_node_eq {tree found : FileTree} (free : tree.node ≠ .dir)
    (same : found.node = tree.node) : found = tree := by
  cases tree with
  | dir entries => exact absurd rfl free
  | file held => exact node_eq_file_iff.1 same
  | link target =>
    cases found with
    | link target' => exact congrArg FileTree.link (Node.link.inj same)
    | file | dir => cases same

theorem file_eq_ok_iff_find {held : File} :
    disk.file path = .ok held ↔ disk.find path = .ok (.file held) := by
  rw [file]
  cases disk.find path with
  | error e => simp [bind, Except.bind]
  | ok found => cases found <;> simp [bind, Except.bind]

theorem isFile_iff_find : disk.isFile path ↔ ∃ held, disk.find path = .ok (.file held) := by
  rw [isFile]
  cases disk.find path with
  | error e => simp
  | ok found => cases found <;> simp

namespace Resembles

variable (resembles : disk.Resembles other)

include resembles

theorem follow (path : Path) :
    Disk.follow other.tree maxLinks (other.start path) path.steps =
      Disk.follow disk.tree maxLinks (disk.start path) path.steps := by
  rw [follow_congr resembles.seen, start, start, resembles.current]

/-- The same is to be seen at the end of a path. -/
theorem find (path : Path) :
    (other.find path).map FileTree.node = (disk.find path).map FileTree.node := by
  rw [find_eq, find_eq, resembles.follow]
  cases checked path with
  | error e => rfl
  | ok =>
    cases Disk.follow disk.tree maxLinks (disk.start path) path.steps with
    | error e => rfl
    | ok arrival =>
      have seen := resembles.seen arrival.place
      dsimp only [bind, Except.bind]
      rw [node?, node?] at seen
      generalize disk.tree.get? arrival.place = here at seen
      generalize other.tree.get? arrival.place = there at seen
      cases here <;> cases there <;> simp [Except.map] at seen ⊢
      exact seen

theorem find_eq_file_iff {held : File} :
    other.find path = .ok (.file held) ↔ disk.find path = .ok (.file held) := by
  rw [← map_node_eq_file_iff, resembles.find, map_node_eq_file_iff]

theorem isFile (path : Path) : other.isFile path = disk.isFile path := by
  rw [Bool.eq_iff_iff, isFile_iff_find, isFile_iff_find]
  exact exists_congr fun held => resembles.find_eq_file_iff

/-- A directory that is read on one disk is read on the other one, with the same entries. -/
theorem exists_entries (read : disk.entries dir = .ok entries) :
    ∃ entries', other.entries dir = .ok entries' ∧
      ∀ name, (entries'.find? name).map FileTree.node = (entries.find? name).map FileTree.node := by
  have isDir := map_node_eq_dir_iff.2 ⟨entries, entries_eq_ok_iff_find.1 read⟩
  obtain ⟨entries', found'⟩ := map_node_eq_dir_iff.1 ((resembles.find dir).trans isDir)
  refine ⟨entries', entries_eq_ok_iff_find.2 found', fun name => ?_⟩
  obtain ⟨-, arrival, led, here⟩ := find_eq_ok_iff_follow.1 (entries_eq_ok_iff_find.1 read)
  obtain ⟨-, arrival', led', there⟩ := find_eq_ok_iff_follow.1 found'
  rw [resembles.follow, led] at led'
  obtain rfl := Except.ok.inj led'
  have seen := resembles.seen (arrival.place ++ [name])
  rw [node?_below here, node?_below there, node?_dir_cons, node?_dir_cons] at seen
  simpa [node?_nil, Option.map_eq_bind, Function.comp_def] using seen

end Resembles

end Disk

end AssetSeed
