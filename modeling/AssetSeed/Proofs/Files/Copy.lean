import AssetSeed.Files.Copy
import AssetSeed.Proofs.Files.Overlay

/-!
# Copies lie over what was there

A directory is copied entry by entry. The copy is allowed as long as nothing is a directory on one
side and a file on the other, and no path gets too long; otherwise it ends early, with a part of the
tree at the target and nothing changed elsewhere.

## Main definitions

* `Disk.Ends` — how a change of what is at a place can end.
* `Disk.Lays` — a change that lays a tree over another one.
* `Disk.Site` — a place to copy from and one to copy to.
* `Disk.Copyable` — a directory can be copied.

## Main statements

* `Disk.lays_copyFile` — a file.
* `Disk.forM_ends` — entries, by induction on those that are still to be copied.
* `Disk.lays_copyUpTo` — a directory, by induction on its depth.
* `Disk.copyDir_overlays` — when a copy succeeds, and what it leaves.
-/

namespace AssetSeed.Disk

open AssetSeed.Path FileTree

variable {disk : Disk} {source target : Path} {place above : List String} {name : String}

/-! ## Files -/

section

variable {held : File} (reaches : disk.Reaches source place)
  (reaches' : disk.Reaches target (above ++ [name]))
  (here : disk.tree.get? place = some (.file held))

include reaches reaches' here

/-- A file is copied where no directory is. -/
theorem copyFile_of_free (fitsSource : Fits source) (fitsTarget : Fits target)
    (parent : disk.tree.node? above = some .dir)
    (free : disk.tree.node? (above ++ [name]) ≠ some .dir) (differ : place ≠ above ++ [name]) :
    disk.copyFile source target = .ok (disk.put (above ++ [name])
      (.file { content := held.content, executable := held.executable })) := by
  have found := (find_eq_ok_iff reaches).2 ⟨fitsSource, here⟩
  have at_source := place_of_get? reaches fitsSource here
  obtain ⟨emptied, written⟩ := write_of_free reaches' fitsTarget parent free []
  have at_target := target_of_put reaches' fitsTarget emptied
  rw [copyFile, found]
  simp only [bind, Except.bind, written, at_target, at_source, Except.toOption, Option.some_inj,
    differ, if_false]
  exact congrArg Except.ok (put_put _ _ _)

theorem copyFile_of_refused (refused : ¬ Fits source ∨ ¬ Fits target ∨
      disk.tree.node? above = some .dir ∧ disk.tree.node? (above ++ [name]) = some .dir) :
    ∃ e, disk.copyFile source target = .error e := by
  by_cases fitsSource : Fits source
  · have found := (find_eq_ok_iff reaches).2 ⟨fitsSource, here⟩
    have unwritten : ∃ e, disk.write target [] = .error e := by
      by_cases fitsTarget : Fits target
      · obtain ⟨parent, isDir⟩ := (refused.resolve_left (not_not.2 fitsSource)).resolve_left
          (not_not.2 fitsTarget)
        exact ⟨_, write_of_isDir reaches' fitsTarget parent isDir []⟩
      · obtain ⟨e, fails⟩ := target_of_not_fits reaches' fitsTarget
        exact ⟨e, by rw [write, fails]; rfl⟩
    obtain ⟨e, fails⟩ := unwritten
    exact ⟨e, by rw [copyFile, found]; simp only [bind, Except.bind, fails]⟩
  · refine ⟨.nameTooLong, ?_⟩
    rw [copyFile, find, Disk.place, checked_of_not_fits reaches.leads fitsSource]
    rfl

end

/-! ## How a change ends -/

/-- A change of what is at a place has been made in whole exactly if it is allowed. Otherwise it may
have been made in part. -/
def Ends (disk : Disk) (place : List String) (allowed : Prop) (made : FileTree → Prop) :
    EStateM.Result FileError Disk Unit → Prop
  | .ok _ after => allowed ∧ ∃ new, after = disk.put place new ∧ made new
  | .error _ after => ¬ allowed ∧ (after = disk ∨ ∃ new, after = disk.put place new)

/-- The change lays a tree over what is at the target. -/
def Lays (disk : Disk) (source target : Path) (there : List String) (tree : FileTree)
    (change : EStateM FileError Disk Unit) : Prop :=
  Ends disk there (Allowed tree (disk.tree.get? there) source target)
    (Overlaid tree (disk.tree.get? there)) (change disk)

section

variable {allowed allowed' : Prop} {made made' : FileTree → Prop}
  {result : EStateM.Result FileError Disk Unit}

theorem Ends.imp (ends : Ends disk place allowed made result) (same : allowed ↔ allowed')
    (imp : ∀ new, made new → made' new) : Ends disk place allowed' made' result := by
  cases result with
  | ok _ after =>
    obtain ⟨allowed, new, put, made⟩ := ends
    exact ⟨same.1 allowed, new, put, imp new made⟩
  | error e after => exact ⟨mt same.2 ends.1, ends.2⟩

/-- What was at the place in between does not count. -/
theorem Ends.of_put {between : FileTree}
    (ends : Ends (disk.put place between) place allowed made result) :
    Ends disk place allowed made result := by
  cases result with
  | ok _ after =>
    obtain ⟨allowed, new, rfl, made⟩ := ends
    exact ⟨allowed, new, put_put new between place, made⟩
  | error e after =>
    refine ⟨ends.1, .inr ?_⟩
    obtain rfl | ⟨new, rfl⟩ := ends.2
    · exact ⟨between, rfl⟩
    · exact ⟨new, put_put new between place⟩

end

/-! ## From one place to another -/

/-- A place to copy from and one to copy to, neither of them in the other, with paths that lead
there. -/
structure Site (disk : Disk) (source target : Path) (here there : List String) : Prop where
  source : disk.Reaches source here
  target : disk.Reaches target there
  ahead : ¬ here <+: there
  behind : ¬ there <+: here

namespace Site

variable {here there : List String} (site : Site disk source target here there)

include site

theorem apart (name : String) : ¬ here ++ [name] <+: there ∧ ¬ there <+: here ++ [name] := by
  refine ⟨fun below => site.ahead ((List.prefix_append _ _).trans below), fun below => ?_⟩
  obtain rfl | below := List.prefix_concat_iff.1 below
  · exact site.ahead (List.prefix_append _ _)
  · exact site.behind below

theorem join (isName : IsName name) :
    Site disk (source.join name) (target.join name) (here ++ [name]) (there ++ [name]) where
  source := site.source.join isName
  target := site.target.join isName
  ahead below := by
    obtain same | below := List.prefix_concat_iff.1 below
    · exact site.ahead (List.append_inj_left' same rfl ▸ List.prefix_refl _)
    · exact (site.apart name).1 below
  behind below := by
    obtain same | below := List.prefix_concat_iff.1 below
    · exact site.behind (List.append_inj_left' same rfl ▸ List.prefix_refl _)
    · exact site.behind ((List.prefix_append _ _).trans below)

/-- What is put at the target does not get in the way. -/
theorem put {new : FileTree} (linkless : ∀ rel target, new.get? rel ≠ some (.link target)) :
    Site (disk.put there new) source target here there where
  source := site.source.put linkless fun inside =>
    site.behind (inside.trans site.source.start_isPrefix.1)
  target := site.target.put_self linkless
  ahead := site.ahead
  behind := site.behind

/-- An entry that is put at the target does not either. -/
theorem put_entry {cur new : FileTree} (found : disk.tree.get? there = some cur)
    (linkless : ∀ rel target, new.get? rel ≠ some (.link target)) (name : String) :
    Site (disk.put there (cur.put [name] new)) source target here there := by
  refine site.put fun rel path isLink => site.target.linkless.below rel path ?_
  rw [get?_below found]
  exact get?_of_put_link linkless isLink

theorem get?_put (new : FileTree) : (disk.put there new).tree.get? here = disk.tree.get? here :=
  get?_put_of_apart site.behind site.ahead

end Site

/-! ## Entries one after the other -/

section

variable {here there : List String} {todo : Entries}

/-- By induction on the entries that are still to be copied, with the tree at the target as it is by
then. -/
theorem forM_ends {step : String × FileTree → EStateM FileError Disk Unit}
    (distinct : (todo.map Prod.fst).Nodup) (site : Site disk source target here there)
    {cur : FileTree} (found : disk.tree.get? there = some cur) (isDir : cur.node = .dir)
    (sources : ∀ entry ∈ todo, disk.tree.get? (here ++ [entry.1]) = some entry.2)
    (each : ∀ entry ∈ todo, ∀ disk : Disk, Site disk source target here there →
      disk.tree.node? there = some .dir → disk.tree.get? (here ++ [entry.1]) = some entry.2 →
      Lays disk (source.join entry.1) (target.join entry.1) (there ++ [entry.1]) entry.2
        (step entry)) :
    Ends disk there
      (∀ entry ∈ todo,
        Allowed entry.2 (cur.get? [entry.1]) (source.join entry.1) (target.join entry.1))
      (Overlaid (.dir todo) (some cur)) (todo.forM step disk) := by
  induction todo generalizing disk cur with
  | nil =>
    refine ⟨nofun, cur, (put_get? found).symm, ?_, fun rel => ?_⟩
    · exact fun rel target => get?_below found rel ▸ site.target.linkless.below rel target
    · cases rel with
      | nil => rw [node?_nil, isDir]; rfl
      | cons name rel => rfl
  | cons entry rest ih =>
    obtain ⟨name, tree⟩ := entry
    obtain ⟨fresh, distinct⟩ := List.nodup_cons.1 distinct
    have isDir' : disk.tree.node? there = some .dir := by rw [node?, found, Option.map_some, isDir]
    have first := each _ List.mem_cons_self disk site isDir' (sources _ List.mem_cons_self)
    rw [List.forM_eq_forM, List.forM_cons]
    rw [Lays, get?_below found [name]] at first
    cases run : step (name, tree) disk with
    | error e after =>
      rw [run] at first
      rw [bind_of_error _ run]
      refine ⟨fun allowed => first.1 (allowed _ List.mem_cons_self), ?_⟩
      obtain rfl | ⟨new, rfl⟩ := first.2
      · exact .inl rfl
      · exact .inr ⟨cur.put [name] new, put_below found [name] new⟩
    | ok _ after =>
      rw [run] at first
      rw [bind_of_ok _ run]
      obtain ⟨allowed, new, rfl, laid⟩ := first
      have site' := site.put_entry found laid.linkless name
      rw [put_below found]
      have sources' : ∀ entry ∈ rest,
          (disk.put there (cur.put [name] new)).tree.get? (here ++ [entry.1]) = some entry.2 := by
        intro entry mem
        obtain ⟨ahead, behind⟩ := site.apart entry.1
        rw [Disk.put, get?_put_of_apart behind ahead]
        exact sources entry (List.mem_cons_of_mem _ mem)
      have others := ih distinct site' (get?_put_self ..) rfl sources' fun entry mem =>
        each entry (List.mem_cons_of_mem _ mem)
      refine others.of_put.imp ?_ fun new' laid' => laid.cons fresh laid'
      rw [List.forall_mem_cons, and_iff_right allowed]
      refine forall₂_congr fun entry mem => ?_
      have differ : entry.1 ≠ name := fun same => fresh (List.mem_map.2 ⟨entry, mem, same⟩)
      rw [get?_put_of_apart] <;> simp [differ, Ne.symm differ]

end

/-! ## Whole trees -/

/-- Copies what is at a path, a directory with `fuel` levels at most. -/
def copyOne (fuel : Nat) (tree : FileTree) (source target : Path) : EStateM FileError Disk Unit :=
  if tree.isDir then copyUpTo fuel source target else whole (copyFile · source target)

/-- A directory is made, and the entries of another one are copied into it. -/
theorem copyUpTo_succ (fuel : Nat) (disk : Disk) (source target : Path) :
    copyUpTo (fuel + 1) source target disk =
      match whole (createDirs · target) disk with
      | .error e after => .error e after
      | .ok _ made =>
        match made.entries source with
        | .error e => .error e made
        | .ok entries =>
          entries.forM (fun entry =>
            copyOne fuel entry.2 (source.join entry.1) (target.join entry.1)) made := by
  rw [copyUpTo]
  cases run : whole (createDirs · target) disk with
  | error e after => exact bind_of_error _ run
  | ok _ made =>
    exact (bind_of_ok _ run).trans (entries_bind source made _)

section

variable {here above : List String}

/-- A file is copied over what is at the target. -/
theorem lays_copyFile (site : Site disk source target here (above ++ [name])) {held : File}
    (found : disk.tree.get? here = some (.file held)) (parent : disk.tree.node? above = some .dir) :
    Lays disk source target (above ++ [name]) (.file held) (whole (copyFile · source target)) := by
  have differ : here ≠ above ++ [name] := fun same => site.ahead (same ▸ List.prefix_refl _)
  by_cases allowed : Allowed (.file held) (disk.tree.get? (above ++ [name])) source target
  · obtain ⟨fitsSource, fitsTarget, free⟩ := allowed_file_iff.1 allowed
    have copied := copyFile_of_free site.source site.target found fitsSource fitsTarget parent free
      differ
    rw [Lays, whole, copied]
    exact ⟨allowed, _, rfl, overlaid_file free⟩
  · have refused : ¬ Fits source ∨ ¬ Fits target ∨
        disk.tree.node? above = some .dir ∧ disk.tree.node? (above ++ [name]) = some .dir := by
      rw [allowed_file_iff, not_and_or, not_and_or, not_not] at allowed
      exact allowed.imp_right (Or.imp_right fun isDir => ⟨parent, isDir⟩)
    obtain ⟨e, fails⟩ := copyFile_of_refused site.source site.target found refused
    rw [Lays, whole, fails]
    exact ⟨allowed, .inl rfl⟩

end

section

variable {there : List String} (reaches : disk.Reaches target there)

include reaches

/-- A directory is at the target already, or is made there, unless a file is in the way. -/
theorem createDirs_ends :
    Ends disk there
      (Fits target ∧ Open disk.tree there ∧
        ∀ held, (disk.tree.get? there).map node ≠ some (.file held))
      (· = (disk.tree.get? there).getD .empty) (whole (createDirs · target) disk) := by
  rw [whole]
  by_cases fits : Fits target
  · by_cases way : Open disk.tree there
    swap
    · rw [createDirs_of_blocked reaches fits way]
      exact ⟨fun allowed => way allowed.2.1, .inl rfl⟩
    cases found : disk.tree.get? there with
    | none =>
      rw [createDirs_of_missing reaches fits found way]
      exact ⟨⟨fits, way, by simp⟩, .empty, rfl, rfl⟩
    | some old =>
      have isDir : disk.isDir target ↔ old.node = .dir := by
        rw [isDir_iff reaches, and_iff_right fits, node?, found, Option.map_some, Option.some_inj]
      rw [createDirs_of_get? reaches fits found]
      cases old with
      | dir entries =>
        rw [if_pos (isDir.2 rfl)]
        exact ⟨⟨fits, way, by simp [node]⟩, _, (put_get? found).symm, rfl⟩
      | file held =>
        rw [if_neg (mt isDir.1 (by simp [node]))]
        exact ⟨fun allowed => allowed.2.2 held rfl, .inl rfl⟩
      | link path => exact absurd found (reaches.linkless.here path)
  · rw [createDirs_of_not_fits reaches fits]
    exact ⟨fun allowed => fits allowed.1, .inl rfl⟩

theorem node_root (free : ∀ held, (disk.tree.get? there).map node ≠ some (.file held)) :
    ((disk.tree.get? there).getD .empty).node = .dir := by
  cases found : disk.tree.get? there with
  | none => rfl
  | some old =>
    cases old with
    | dir entries => rfl
    | file held => exact absurd (found ▸ rfl) (free held)
    | link path => exact absurd found (reaches.linkless.here path)

end

section

variable {here there : List String} (site : Site disk source target here there)

include site

theorem Site.put_root :
    Site (disk.put there ((disk.tree.get? there).getD .empty)) source target here there := by
  refine site.put fun rel path => ?_
  cases found : disk.tree.get? there with
  | none => exact linkless_empty rel path
  | some old => exact get?_below found rel ▸ site.target.linkless.below rel path

end

/-- By induction on the fuel, which lasts as long as the paths are short enough. -/
theorem lays_copyUpTo (fuel : Nat) {disk : Disk} {source target : Path} {here there : List String}
    (site : Site disk source target here there) (way : Open disk.tree there) {entries : Entries}
    (found : disk.tree.get? here = some (.dir entries)) (plain : (FileTree.dir entries).Plain)
    (enough : maxPath < fuel + target.text.utf8ByteSize) :
    Lays disk source target there (.dir entries) (copyUpTo fuel source target) := by
  induction fuel generalizing disk source target here there entries with
  | zero =>
    refine ⟨fun allowed => ?_, .inl rfl⟩
    obtain ⟨-, fits, -⟩ := (allowed_dir_iff plain).1 allowed
    rw [Nat.zero_add] at enough
    exact absurd fits (Nat.not_le.2 enough)
  | succ fuel ih =>
    have each : ∀ entry ∈ entries, ∀ disk : Disk, Site disk source target here there →
        disk.tree.node? there = some .dir → disk.tree.get? (here ++ [entry.1]) = some entry.2 →
        Lays disk (source.join entry.1) (target.join entry.1) (there ++ [entry.1]) entry.2
          (copyOne fuel entry.2 (source.join entry.1) (target.join entry.1)) := by
      rintro ⟨name, tree⟩ mem disk site parent found
      have isName := plain.isName mem
      cases tree with
      | file held => exact lays_copyFile (site.join isName) found parent
      | link path => exact absurd found (site.source.linkless.below [name] path)
      | dir entries =>
        have longer := site.target.leads.size_lt_join isName
        exact ih (site.join isName) (open_of_isDir parent) found (plain.entry mem) (by omega)
    rw [Lays, copyUpTo_succ, allowed_dir_iff plain]
    have root := createDirs_ends site.target
    cases run : whole (createDirs · target) disk with
    | error e after =>
      rw [run] at root
      exact ⟨fun allowed => root.1 ⟨allowed.2.1, way, allowed.2.2.1⟩, root.2⟩
    | ok _ made =>
      rw [run] at root
      obtain ⟨⟨fits, -, free⟩, _, rfl, rfl⟩ := root
      have site' := site.put_root
      have found' := (site.get?_put ((disk.tree.get? there).getD .empty)).trans found
      by_cases fitsSource : Fits source
      · have read := (entries_eq_ok_iff site'.source).2 ⟨fitsSource, found'⟩
        have sources := fun entry mem =>
          (get?_below found' [Prod.fst entry]).trans (plain.get?_entry mem)
        have others := forM_ends plain.nodup site' (get?_put_self ..) (node_root site.target free)
          sources each
        simp only [read]
        refine others.of_put.imp ?_ fun new laid => laid.of_getD
        simp only [bind_get?_getD, fits, fitsSource, free, true_and, ne_eq, not_false_eq_true,
          implies_true]
      · obtain ⟨e, fails⟩ := entries_eq_error site'.source
          fun fits => absurd fits fitsSource
        simp only [fails]
        exact ⟨fun allowed => fitsSource allowed.1, .inr ⟨_, rfl⟩⟩

/-! ## Copies of directories -/

/-- The source is a directory, nothing is a directory on one side and a file on the other, no file
is on the way to the target, and no path of what is in the source is too long, seen from either
side. -/
structure Copyable (disk : Disk) (source target : Path) (here there : List String) : Prop where
  isDir : disk.tree.node? here = some .dir
  way : Open disk.tree there
  agree : ∀ rel, ¬ Clash (disk.tree.node? (here ++ rel)) (disk.tree.node? (there ++ rel))
  fits : ∀ rel, disk.tree.node? (here ++ rel) ≠ none →
    Fits (source.below rel) ∧ Fits (target.below rel)

/-- The disk as the copy of a directory leaves it, whether it succeeds or not. -/
def afterCopy (disk : Disk) (source target : Path) : Disk :=
  match copyUpTo maxPath source target disk with
  | .ok _ after => after
  | .error _ after => after

section

variable {here there : List String} (plain : disk.tree.PlainAt here)
  (site : Site disk source target here there)

include plain site

theorem copyUpTo_ends : Ends disk there (Copyable disk source target here there)
    (fun new => (∀ rel target, new.get? rel ≠ some (.link target)) ∧
      ∀ rel, new.node? rel =
        overlay (disk.tree.node? (here ++ rel)) (disk.tree.node? (there ++ rel)))
    (copyUpTo maxPath source target disk) := by
  by_cases both : disk.tree.node? here = some .dir ∧ Open disk.tree there
  · obtain ⟨isDir, way⟩ := both
    obtain ⟨entries, found⟩ := node?_eq_dir_iff.1 isDir
    have some : 0 < target.text.utf8ByteSize := by
      rw [Nat.pos_iff_ne_zero, ne_eq, String.utf8ByteSize_eq_zero_iff]
      exact site.target.leads.text_ne_empty
    have ends := lays_copyUpTo maxPath site way found (plain _ found) (by omega)
    have source_eq (rel : List String) := node?_below found rel
    have target_eq (rel : List String) := node?_append disk.tree there rel
    refine ends.imp ?_ fun new laid => ⟨laid.linkless, fun rel => ?_⟩
    · constructor
      · intro allowed
        refine ⟨isDir, way, fun rel => ?_, fun rel some => allowed.fits rel (source_eq rel ▸ some)⟩
        rw [source_eq, target_eq]
        exact allowed.agree rel
      · intro copyable
        refine ⟨fun rel => ?_, fun rel some => copyable.fits rel (source_eq rel ▸ some)⟩
        rw [← source_eq, ← target_eq]
        exact copyable.agree rel
    · rw [source_eq, target_eq]
      exact laid.seen rel
  · have refused : ¬ Copyable disk source target here there :=
      fun copyable => both ⟨copyable.isDir, copyable.way⟩
    have root := createDirs_ends site.target
    rw [show maxPath = 4094 + 1 from rfl, copyUpTo_succ]
    cases run : whole (createDirs · target) disk with
    | error e after =>
      rw [run] at root
      exact ⟨refused, root.2⟩
    | ok _ made =>
      rw [run] at root
      obtain ⟨⟨-, way, -⟩, _, rfl, rfl⟩ := root
      have site' := site.put_root
      obtain ⟨e, fails⟩ := entries_eq_error site'.source fun _ isDir => by
        rw [node?, site.get?_put] at isDir
        exact both ⟨isDir, way⟩
      simp only [fails]
      exact ⟨refused, .inr ⟨_, rfl⟩⟩

theorem copyDir_eq_ok_iff {after : Disk} : disk.copyDir source target = .ok after ↔
    Copyable disk source target here there ∧ after = disk.afterCopy source target := by
  have ends := copyUpTo_ends plain site
  rw [copyDir, afterCopy]
  cases run : copyUpTo maxPath source target disk with
  | ok _ after' =>
    rw [run] at ends
    simp only [Except.ok.injEq, ends.1, true_and]
    exact eq_comm
  | error e after' =>
    rw [run] at ends
    simp only [reduceCtorEq, ends.1, false_and]

/-- Nothing changes that is neither at the target nor above it. -/
theorem get?_afterCopy {place : List String} (before : ¬ there <+: place)
    (behind : ¬ place <+: there) :
    (disk.afterCopy source target).tree.get? place = disk.tree.get? place := by
  have ends := copyUpTo_ends plain site
  have put (new : FileTree) : (disk.put there new).tree.get? place = disk.tree.get? place :=
    get?_put_of_apart before behind
  rw [afterCopy]
  cases run : copyUpTo maxPath source target disk with
  | ok _ after =>
    rw [run] at ends
    obtain ⟨-, new, rfl, -⟩ := ends
    exact put new
  | error e after =>
    rw [run] at ends
    obtain rfl | ⟨new, rfl⟩ := ends.2
    · rfl
    · exact put new

/-- The tree at the target after a copy. -/
theorem afterCopy_eq (copyable : Copyable disk source target here there) :
    ∃ new, disk.afterCopy source target = disk.put there new ∧
      (∀ rel target, new.get? rel ≠ some (.link target)) ∧
      ∀ rel, new.node? rel =
        overlay (disk.tree.node? (here ++ rel)) (disk.tree.node? (there ++ rel)) := by
  have ends := copyUpTo_ends plain site
  rw [afterCopy]
  cases run : copyUpTo maxPath source target disk with
  | ok _ after =>
    rw [run] at ends
    exact ends.2
  | error e after =>
    rw [run] at ends
    exact absurd copyable ends.1

end

section

variable {here there : List String} {other : Disk} (resembles : disk.Resembles other)

include resembles

theorem Resembles.site (site : Site disk source target here there) :
    Site other source target here there where
  source := resembles.reaches site.source
  target := resembles.reaches site.target
  ahead := site.ahead
  behind := site.behind

theorem Resembles.copyable (copyable : Copyable disk source target here there) :
    Copyable other source target here there := by
  obtain ⟨isDir, way, agree, fits⟩ := copyable
  rw [← resembles.seen] at isDir
  simp only [← resembles.seen] at agree fits
  refine ⟨isDir, fun above isPrefix differ held => ?_, agree, fits⟩
  rw [resembles.seen]
  exact way above isPrefix differ held

end

/-- A directory is copied from one place to another, neither of them in the other. There are files
and directories in it, and no links on the two ways or at the target. That succeeds if and only if
the source is a directory, nothing is a directory on one side and a file on the other, no file is on
the way to the target, and no path gets too long. The source then lies over what was at the target:
files as they are in the source, its directories with the empty ones among them, and else what was
there. Whether it succeeds or not, the source and whatever is not on the way to the target or in it
stay as they are. None of this depends on the order in which directories list their entries. -/
theorem copyDir_overlays {here there : List String} (plain : disk.tree.PlainAt here)
    (site : Site disk source target here there) :
    ((∃ after, disk.copyDir source target = .ok after) ↔
      Copyable disk source target here there) ∧
    (∀ after, disk.copyDir source target = .ok after →
      after = disk.afterCopy source target ∧ ∀ rel, after.tree.node? (there ++ rel) =
        overlay (disk.tree.node? (here ++ rel)) (disk.tree.node? (there ++ rel))) ∧
    (disk.afterCopy source target).tree.get? here = disk.tree.get? here ∧
    (∀ place, ¬ there <+: place → ¬ place <+: there →
      (disk.afterCopy source target).tree.get? place = disk.tree.get? place) ∧
    ∀ other : Disk, other.tree.PlainAt here → disk.Resembles other →
      ((∃ after, other.copyDir source target = .ok after) ↔
        ∃ after, disk.copyDir source target = .ok after) ∧
      ∀ after after', disk.copyDir source target = .ok after →
        other.copyDir source target = .ok after' → after.Resembles after' := by
  refine ⟨?_, fun after copied => ?_, ?_, fun place before behind => ?_,
    fun other plain' resembles => ⟨?_, fun after after' copied copied' => ?_⟩⟩
  · simp only [copyDir_eq_ok_iff plain site, exists_and_left, exists_eq, and_true]
  · obtain ⟨copyable, rfl⟩ := (copyDir_eq_ok_iff plain site).1 copied
    refine ⟨rfl, fun rel => ?_⟩
    obtain ⟨new, laid, -, seen⟩ := afterCopy_eq plain site copyable
    rw [laid, ← seen rel, node?, node?, Disk.put, get?_put_append]
  · exact get?_afterCopy plain site site.behind site.ahead
  · exact get?_afterCopy plain site before behind
  · have site' := resembles.site site
    simp only [copyDir_eq_ok_iff plain site,
      copyDir_eq_ok_iff plain' site', exists_and_left, exists_eq, and_true]
    exact ⟨resembles.symm.copyable, resembles.copyable⟩
  · have site' := resembles.site site
    obtain ⟨copyable, rfl⟩ := (copyDir_eq_ok_iff plain site).1 copied
    obtain ⟨copyable', rfl⟩ := (copyDir_eq_ok_iff plain' site').1 copied'
    obtain ⟨new, laid, -, seen⟩ := afterCopy_eq plain site copyable
    obtain ⟨new', laid', -, seen'⟩ := afterCopy_eq plain' site' copyable'
    rw [laid, laid']
    refine resembles.put (fun rel => ?_) there
    rw [seen, seen', resembles.seen, resembles.seen]

/-- There is a link elsewhere on the disk. -/
theorem copyDir_overlays_nested :
    let disk : Disk := { tree := .dir [
      ("s", .dir [("a", .file { content := [1] }), ("d", .empty)]),
      ("t", .dir [("d", .dir [("b", .file { content := [2] })]),
        ("a", .file { content := [3] })]), ("l", .link "t")] }
    disk.tree.PlainAt ["s"] ∧ Site disk ⟨"s"⟩ ⟨"t"⟩ ["s"] ["t"] ∧
    ∃ after, disk.copyDir ⟨"s"⟩ ⟨"t"⟩ = .ok after ∧
      after.tree.node? ["t", "a"] = some (.file { content := [1] }) ∧
      after.tree.node? ["t", "d", "b"] = some (.file { content := [2] }) := by
  intro disk
  have plain (name : String) (mem : name ∈ ["s", "t"]) : disk.tree.PlainAt [name] := by
    rintro held here
    obtain rfl | rfl := List.mem_pair.1 mem <;> cases here <;>
      simp only [empty, plain_dir_iff, plain_file, List.forall_mem_cons, List.not_mem_nil,
        false_imp_iff, implies_true, and_true] <;> decide +kernel
  have site : Site disk ⟨"s"⟩ ⟨"t"⟩ ["s"] ["t"] :=
    { source := reaches_name (.of_found rfl (plain "s" (by decide) _ rfl)) rfl (by decide +kernel)
      target := reaches_name (.of_found rfl (plain "t" (by decide) _ rfl)) rfl (by decide +kernel)
      ahead := by decide
      behind := by decide }
  have copied : (disk.copyDir ⟨"s"⟩ ⟨"t"⟩).isOk := by decide +kernel
  cases copy : disk.copyDir ⟨"s"⟩ ⟨"t"⟩ with
  | error e => rw [copy] at copied; cases copied
  | ok after =>
    obtain ⟨-, seen⟩ := (copyDir_overlays (plain "s" (by decide)) site).2.1 after copy
    exact ⟨plain "s" (by decide), site, after, rfl, (seen ["a"]).trans (by decide),
      (seen ["d", "b"]).trans (by decide)⟩

/-- A directory inside many others cannot be copied to where its path gets too long. -/
theorem copyDir_too_long :
    let name := longName 200
    let deep := List.replicate 19 name ++ ["f"]
    let disk : Disk := { tree := FileTree.empty.put ("s" :: deep) (.file { content := [120] }) }
    disk.tree.Plain ∧ Site disk ⟨"s"⟩ (spell false [name, name]) ["s"] [name, name] ∧
    ¬ ((∃ after, disk.copyDir ⟨"s"⟩ (spell false [name, name]) = .ok after) ↔
      disk.tree.node? ["s"] = some .dir ∧
      ∀ rel, ¬ Clash (disk.tree.node? (["s"] ++ rel)) (disk.tree.node? ([name, name] ++ rel))) := by
  intro name deep disk
  have proper : ∀ other ∈ deep, IsName other :=
    List.forall_mem_append.2 ⟨isName_of_mem_row 19 (by decide) (by decide), by decide +kernel⟩
  have twice : ∀ other ∈ [name, name], IsName other :=
    isName_of_mem_row 2 (by decide) (by decide)
  have plain : disk.tree.Plain :=
    plain_empty.put (List.forall_mem_cons.2 ⟨by decide +kernel, proper⟩) (plain_file _)
  have site : Site disk ⟨"s"⟩ (spell false [name, name]) ["s"] [name, name] :=
    { source := reaches_name (.of_plain plain _) rfl (by decide +kernel)
      target :=
        ⟨.of_plain plain _, start_spell (List.cons_ne_nil name [name]) twice ▸ rfl,
          .spelled false nofun twice⟩
      ahead := by decide +kernel
      behind := by decide +kernel }
  have missing : disk.tree.node? [name, name] = none := by decide +kernel
  have agree (rel : List String) :
      ¬ Clash (disk.tree.node? (["s"] ++ rel)) (disk.tree.node? ([name, name] ++ rel)) := by
    rw [node?_eq_none_iff.2 (get?_of_missing (node?_eq_none_iff.1 missing) rel)]
    generalize disk.tree.node? _ = node
    nofun
  have filled : disk.tree.node? (["s"] ++ deep) ≠ none := by
    rw [ne_eq, node?_eq_none_iff]
    exact Option.ne_none_iff_exists'.2 ⟨_, get?_put_self .empty _ ("s" :: deep)⟩
  refine ⟨plain, site, fun same => ?_⟩
  obtain ⟨after, copied⟩ := same.2 ⟨by decide +kernel, agree⟩
  have fits := (((copyDir_eq_ok_iff (plain.plainAt _) site).1 copied).1.fits deep filled).2
  have start : (spell false [name, name]).text.utf8ByteSize = 401 := by
    rw [← List.singleton_append, text_spell_concat (List.cons_ne_nil name []), text_spell_singleton,
      String.utf8ByteSize_append, String.utf8ByteSize_append, utf8ByteSize_longName]
    rfl
  rw [Fits, site.target.leads.size_below proper, start] at fits
  simp only [deep, name] at fits
  exact absurd fits (by decide +kernel)

end AssetSeed.Disk
