import AssetSeed.Proofs.Files.Follow
import AssetSeed.Restore.Snapshot

/-!
# The snapshot that is restored

The disk is any disk whose directories list each entry once, under a name that it can have; there
may be links on it. What is selected depends on the files there are and on when they were changed,
not on the order in which they are listed.

## Main definitions

* `Snapshot.Regular` — a regular file in a directory.
* `Snapshot.Offers` — a dump in a directory.
* `Snapshot.Latest` — the path of the dump that was changed last.

## Main statements

* `Snapshot.latest?_eq_some_iff` — the latest of some dumps.
* `Snapshot.inDir?_eq_some_iff`, `Snapshot.inDir?_eq_none_iff` — the latest dump in a directory.
* `Snapshot.Offers.congr` — disks that resemble each other offer the same dumps.
* `Snapshot.select?_latest` — what is selected.
-/

namespace AssetSeed.Snapshot

open Text FileTree

/-- A regular file in a directory: an entry that is one, the path of which is not too long, or a
link that leads to one. -/
inductive Regular (disk : Disk) (dir : Path) (name : String) (held : File) : Prop where
  | file {entries : Entries} (read : disk.entries dir = .ok entries)
    (entry : (name, .file held) ∈ entries) (fits : Disk.Fits (dir.join name))
  | link {entries : Entries} {target : String} (read : disk.entries dir = .ok entries)
    (entry : (name, .link target) ∈ entries)
    (leads : disk.find (dir.join name) = .ok (.file held))

/-- A dump in a directory, by its name. -/
structure Offers (disk : Disk) (dir : Path) (name : String) (held : File) : Prop where
  regular : Regular disk dir name held
  zipped : ".gz".toList <:+ name.toList
  notMedia : ¬ ".media.tar.gz".toList <:+ name.toList

/-- The path of a dump in a directory that was changed last. Of several that were changed at one
time it is the one with the last path. -/
def Latest (disk : Disk) (dir path : Path) : Prop :=
  ∃ name held, Offers disk dir name held ∧ path = dir.join name ∧
    ∀ other held', Offers disk dir other held' → held'.modified < held.modified ∨
      held'.modified = held.modified ∧ ¬ path.Before (dir.join other)

/-! ## The latest of some dumps -/

section

variable {a b c : String × Int} {dumps : List (String × Int)}

theorem isLater_iff : isLater a b ↔ b.2 < a.2 ∨ a.2 = b.2 ∧ b.1 < a.1 := by
  simp [isLater]

theorem isLater_irrefl (a : String × Int) : ¬ isLater a a := by
  rw [isLater_iff]
  rintro (earlier | ⟨-, before⟩)
  · omega
  · exact String.lt_irrefl _ before

theorem isLater_trans (first : isLater a b) (second : isLater b c) : isLater a c := by
  rw [isLater_iff] at *
  obtain earlier | ⟨same, before⟩ := first <;> obtain earlier' | ⟨same', before'⟩ := second
  · exact .inl (by omega)
  · exact .inl (by omega)
  · exact .inl (by omega)
  · exact .inr ⟨same.trans same', String.lt_trans before' before⟩

/-- Of two dumps one is later. -/
theorem eq_of_not_isLater (left : ¬ isLater a b) (right : ¬ isLater b a) : a = b := by
  rw [isLater_iff, not_or, not_and] at left right
  have same : a.2 = b.2 := by omega
  exact Prod.ext (String.le_antisymm (left.2 same) (right.2 same.symm)) same

theorem latest?_eq_none_iff : latest? dumps = none ↔ dumps = [] := by
  cases dumps with
  | nil => simp [latest?]
  | cons dump rest =>
    rw [latest?]
    cases latest? rest with
    | none => simp
    | some other => simp only [reduceCtorEq, iff_false]; split <;> simp

/-- By induction on the dumps: the latest of the rest is compared with one more. -/
theorem latest?_spec (found : latest? dumps = some a) :
    a ∈ dumps ∧ ∀ b ∈ dumps, ¬ isLater b a := by
  induction dumps generalizing a with
  | nil => cases found
  | cons dump rest ih =>
    rw [latest?] at found
    cases later : latest? rest with
    | none =>
      rw [later] at found
      obtain rfl := Option.some.inj found
      rw [latest?_eq_none_iff.1 later]
      simpa using isLater_irrefl dump
    | some other =>
      obtain ⟨mem, greatest⟩ := ih later
      simp only [later] at found
      split at found
      · next wins =>
        obtain rfl := Option.some.inj found
        refine ⟨List.mem_cons_self, List.forall_mem_cons.2 ⟨isLater_irrefl dump, fun b hb => ?_⟩⟩
        exact fun beats => greatest b hb (isLater_trans beats wins)
      · next loses =>
        obtain rfl := Option.some.inj found
        exact ⟨List.mem_cons_of_mem _ mem, List.forall_mem_cons.2 ⟨loses, greatest⟩⟩

theorem latest?_eq_some_iff : latest? dumps = some a ↔
    a ∈ dumps ∧ ∀ b ∈ dumps, ¬ isLater b a := by
  refine ⟨latest?_spec, fun ⟨mem, greatest⟩ => ?_⟩
  cases found : latest? dumps with
  | none =>
    rw [latest?_eq_none_iff.1 found] at mem
    cases mem
  | some other =>
    obtain ⟨mem', greatest'⟩ := latest?_spec found
    rw [eq_of_not_isLater (greatest other mem') (greatest' a mem)]

end

/-! ## The dumps in a directory -/

variable {disk : Disk} {dir path : Path} {entries : Entries} {name : String} {held : File}

theorem isDumpName_iff : isDumpName name ↔
    ".gz".toList <:+ name.toList ∧ ¬ ".media.tar.gz".toList <:+ name.toList := by
  rw [isDumpName, Bool.and_eq_true, Bool.not_eq_true', ← Bool.not_eq_true]
  simp only [endsWith, List.isSuffixOf_iff_suffix, mediaSuffix]

theorem dump?_eq_some_iff {dump : String × Int} : dump? disk dir name = some dump ↔
    isDumpName name ∧ ∃ held, disk.find (dir.join name) = .ok (.file held) ∧
      dump = (name, held.modified) := by
  rw [dump?]
  split
  · next isDump =>
    simp only [isDump, true_and, ← Disk.file_eq_ok_iff_find]
    cases disk.file (dir.join name) <;> simp [Except.toOption, eq_comm]
  · next other => simp [other]

section

variable (listable : disk.tree.Listable) (read : disk.entries dir = .ok entries)

include listable read

theorem nodup_entries : (entries.map Prod.fst).Nodup := by
  obtain ⟨-, arrival, -, here⟩ :=
    Disk.find_eq_ok_iff_follow.1 (Disk.entries_eq_ok_iff_find.1 read)
  exact listable.distinct _ _ here

theorem isName_entry {entry : String × FileTree} (mem : entry ∈ entries) : IsName entry.1 := by
  obtain ⟨-, arrival, -, here⟩ :=
    Disk.find_eq_ok_iff_follow.1 (Disk.entries_eq_ok_iff_find.1 read)
  exact listable.named _ _ here entry mem

/-- What is found under the path of an entry is a regular file in the directory, and nothing else
is. -/
theorem regular_iff : Regular disk dir name held ↔
    name ∈ entries.map Prod.fst ∧ disk.find (dir.join name) = .ok (.file held) := by
  have nodup := nodup_entries listable read
  constructor
  · rintro (⟨read', entry, fits⟩ | ⟨read', entry, leads⟩)
    · obtain rfl := Except.ok.inj (read.symm.trans read')
      exact ⟨List.mem_map_of_mem entry, Disk.find_join read (isName_entry listable read entry) fits
        (Entries.find?_of_mem nodup entry) nofun⟩
    · obtain rfl := Except.ok.inj (read.symm.trans read')
      exact ⟨List.mem_map_of_mem entry, leads⟩
  · rintro ⟨known, leads⟩
    obtain ⟨⟨name, tree⟩, entry, rfl⟩ := List.mem_map.1 known
    have fits := (Disk.checked_eq_ok_iff.1 (Disk.find_eq_ok_iff_follow.1 leads).1).2.2
    have found := Disk.find_join read (isName_entry listable read entry) fits
      (Entries.find?_of_mem nodup entry)
    cases tree with
    | link target => exact .link read entry leads
    | file =>
      cases (found nofun).symm.trans leads
      exact .file read entry fits
    | dir => cases (found nofun).symm.trans leads

theorem mem_dumps_iff {dump : String × Int} :
    dump ∈ entries.filterMap (fun entry => dump? disk dir entry.1) ↔
      ∃ held, Offers disk dir dump.1 held ∧ dump.2 = held.modified := by
  obtain ⟨name, time⟩ := dump
  rw [List.mem_filterMap]
  constructor
  · rintro ⟨⟨_, tree⟩, mem, found⟩
    obtain ⟨isDump, held, leads, same⟩ := dump?_eq_some_iff.1 found
    obtain ⟨rfl, rfl⟩ := Prod.mk.inj same
    obtain ⟨zipped, notMedia⟩ := isDumpName_iff.1 isDump
    have regular := (regular_iff listable read).2 ⟨List.mem_map_of_mem mem, leads⟩
    exact ⟨held, ⟨regular, zipped, notMedia⟩, rfl⟩
  · rintro ⟨held, ⟨regular, zipped, notMedia⟩, rfl⟩
    obtain ⟨known, leads⟩ := (regular_iff listable read).1 regular
    obtain ⟨entry, mem, rfl⟩ := List.mem_map.1 known
    exact ⟨entry, mem, dump?_eq_some_iff.2
      ⟨isDumpName_iff.2 ⟨zipped, notMedia⟩, held, leads, rfl⟩⟩

end

/-! ## The latest dump in a directory -/

/-- Nothing is offered by a directory that cannot be read. -/
theorem Offers.exists_entries (h : Offers disk dir name held) :
    ∃ entries, disk.entries dir = .ok entries := by
  obtain ⟨⟨read, -, -⟩ | ⟨read, -, -⟩, -, -⟩ := h <;> exact ⟨_, read⟩

section

variable (listable : disk.tree.Listable)

include listable

theorem Offers.isName (h : Offers disk dir name held) : IsName name := by
  obtain ⟨entries, read⟩ := h.exists_entries
  obtain ⟨known, -⟩ := (regular_iff listable read).1 h.regular
  obtain ⟨entry, mem, rfl⟩ := List.mem_map.1 known
  exact isName_entry listable read mem

/-- A dump is not later than another one if it was changed earlier, or at the same time and its path
does not come behind. -/
theorem not_isLater_iff {other : String} {held' : File} (h : Offers disk dir name held)
    (h' : Offers disk dir other held') :
    ¬ isLater (other, held'.modified) (name, held.modified) ↔
      held'.modified < held.modified ∨
      held'.modified = held.modified ∧ ¬ (dir.join name).Before (dir.join other) := by
  obtain ⟨entries, read⟩ := h.exists_entries
  have some := (Disk.checked_eq_ok_iff.1
    (Disk.find_eq_ok_iff_follow.1 (Disk.entries_eq_ok_iff_find.1 read)).1).1
  rw [isLater_iff, Path.join_before_join_iff some (h.isName listable) (h'.isName listable)]
  by_cases before : name < other <;> simp [before] <;> omega

/-- The dumps of a directory that is read are gone through, and no others. -/
theorem inDir?_cases : (∃ e, disk.entries dir = .error e) ∧ inDir? disk dir = none ∨
    ∃ dumps, (∀ dump : String × Int, dump ∈ dumps ↔
      ∃ held, Offers disk dir dump.1 held ∧ dump.2 = held.modified) ∧
      inDir? disk dir = (latest? dumps).map fun dump => dir.join dump.1 := by
  rw [inDir?]
  cases read : disk.entries dir with
  | error e => exact .inl ⟨⟨e, rfl⟩, rfl⟩
  | ok entries => exact .inr ⟨_, fun dump => mem_dumps_iff listable read, rfl⟩

theorem inDir?_eq_none_iff : inDir? disk dir = none ↔
    ∀ name held, ¬ Offers disk dir name held := by
  obtain ⟨⟨e, unread⟩, nothing⟩ | ⟨dumps, offered, latest⟩ := @inDir?_cases disk dir listable
  · simp only [nothing, true_iff]
    intro name held offers
    obtain ⟨entries, read⟩ := offers.exists_entries
    cases unread.symm.trans read
  · rw [latest, Option.map_eq_none_iff, latest?_eq_none_iff, List.eq_nil_iff_forall_not_mem]
    constructor
    · intro none name held offers
      exact none (name, held.modified) ((offered _).2 ⟨held, offers, rfl⟩)
    · intro none dump mem
      obtain ⟨held, offers, -⟩ := (offered dump).1 mem
      exact none dump.1 held offers

theorem inDir?_eq_some_iff : inDir? disk dir = some path ↔ Latest disk dir path := by
  obtain ⟨⟨e, unread⟩, nothing⟩ | ⟨dumps, offered, latest⟩ := @inDir?_cases disk dir listable
  · simp only [nothing, reduceCtorEq, false_iff]
    rintro ⟨name, held, offers, -⟩
    obtain ⟨entries, read⟩ := offers.exists_entries
    cases unread.symm.trans read
  · rw [latest, Option.map_eq_some_iff]
    constructor
    · rintro ⟨⟨name, time⟩, found, rfl⟩
      obtain ⟨mem, greatest⟩ := latest?_eq_some_iff.1 found
      obtain ⟨held, offers, same⟩ := (offered _).1 mem
      obtain rfl : time = held.modified := same
      refine ⟨name, held, offers, rfl, fun other held' offers' => ?_⟩
      exact (not_isLater_iff listable offers offers').1
        (greatest _ ((offered _).2 ⟨held', offers', rfl⟩))
    · rintro ⟨name, held, offers, rfl, greatest⟩
      refine ⟨(name, held.modified), latest?_eq_some_iff.2 ⟨?_, ?_⟩, rfl⟩
      · exact (offered _).2 ⟨held, offers, rfl⟩
      · rintro ⟨other, time⟩ mem
        obtain ⟨held', offers', same⟩ := (offered _).1 mem
        obtain rfl : time = held'.modified := same
        exact (not_isLater_iff listable offers offers').2 (greatest other held' offers')

end

/-! ## Disks that resemble each other -/

section

variable {other : Disk} (resembles : disk.Resembles other) (listable : disk.tree.Listable)

include resembles listable

theorem mem_of_resembles {entries' : Entries} {tree : FileTree}
    (read : disk.entries dir = .ok entries) (read' : other.entries dir = .ok entries')
    (entry : (name, tree) ∈ entries) (free : tree.node ≠ .dir) : (name, tree) ∈ entries' := by
  obtain ⟨_, read'', same⟩ := resembles.exists_entries read
  obtain rfl := Except.ok.inj (read'.symm.trans read'')
  have here := same name
  rw [Entries.find?_of_mem (nodup_entries listable read) entry, Option.map_some,
    Option.map_eq_some_iff] at here
  obtain ⟨found, here, same⟩ := here
  exact Disk.eq_of_node_eq free same ▸ Entries.mem_of_find? here

theorem Regular.of_resembles (h : Regular disk dir name held) : Regular other dir name held := by
  obtain ⟨read, entry, fits⟩ | ⟨read, entry, leads⟩ := h
  · obtain ⟨entries', read', -⟩ := resembles.exists_entries read
    exact .file read' (mem_of_resembles resembles listable read read' entry nofun) fits
  · obtain ⟨entries', read', -⟩ := resembles.exists_entries read
    exact .link read' (mem_of_resembles resembles listable read read' entry nofun)
      (resembles.find_eq_file_iff.2 leads)

/-- Disks that resemble each other offer the same dumps. -/
theorem Offers.congr (listable' : other.tree.Listable) :
    Offers other dir name held ↔ Offers disk dir name held := by
  constructor
  · rintro ⟨regular, zipped, notMedia⟩
    exact ⟨regular.of_resembles resembles.symm listable', zipped, notMedia⟩
  · rintro ⟨regular, zipped, notMedia⟩
    exact ⟨regular.of_resembles resembles listable, zipped, notMedia⟩

theorem inDir?_congr (listable' : other.tree.Listable) : inDir? other dir = inDir? disk dir := by
  refine Option.ext fun path => ?_
  rw [inDir?_eq_some_iff listable', inDir?_eq_some_iff listable]
  simp only [Latest, Offers.congr resembles listable listable']

end

/-! ## What is selected -/

/-- The archive of a snapshot has a name that no dump has. -/
theorem suffix_of_join_eq_mediaArchive {base snapshot : Path} (isName : IsName name)
    (same : base.join name = mediaArchive snapshot) : ".media.tar.gz".toList <:+ name.toList := by
  have text : (base.join name).text.toList =
      snapshot.withoutExtension.text.toList ++ ".media.tar.gz".toList := by
    rw [same, mediaArchive, mediaSuffix, String.toList_append]
  by_cases empty : base.text = ""
  · rw [Path.join, Path.isAbsolute_eq_false isName, empty] at text
    exact ⟨_, by simpa using text.symm⟩
  · obtain ⟨before, -, joined⟩ := Path.exists_join_base empty
    rw [joined name isName] at text
    obtain ⟨between, -, ending⟩ | ⟨between, -, ending⟩ := List.append_eq_append_iff.1 text
    · cases between with
      | nil => cases ending
      | cons c between => exact ⟨between, (List.cons.inj ending).2.symm⟩
    · have slash : '/' ∈ ".media.tar.gz".toList := by simp [ending]
      exact absurd slash (by decide)

theorem select?_of_not_isFile {asked : Option Path} (dir : Path)
    (none : ∀ path, asked = some path → ¬ disk.isFile path) :
    select? disk asked dir = inDir? disk dir := by
  have passed : asked.filter disk.isFile = Option.none := by
    simpa [Option.filter_eq_none_iff] using none
  rw [select?, passed]

/-- What is asked for is selected if it is a regular file. Otherwise it is the dump in the directory
that was changed last, and there is none if and only if the directory cannot be read or offers none.
This does not depend on the order in which directories list their entries, and the archive of what
is selected is not among the dumps of any directory. -/
theorem select?_latest (listable : disk.tree.Listable) (asked : Option Path) (dir : Path) :
    (∀ path, asked = some path → disk.isFile path → select? disk asked dir = some path) ∧
    ((∀ path, asked = some path → ¬ disk.isFile path) →
      (∀ path, select? disk asked dir = some path ↔ Latest disk dir path) ∧
      (select? disk asked dir = none ↔
        (∃ e, disk.entries dir = .error e) ∨ ∀ name held, ¬ Offers disk dir name held)) ∧
    (∀ other : Disk, other.tree.Listable → disk.Resembles other →
      select? other asked dir = select? disk asked dir) ∧
    ∀ snapshot, select? disk asked dir = some snapshot →
      ∀ other : Disk, other.tree.Listable → ∀ base name held, Offers other base name held →
        base.join name ≠ mediaArchive snapshot := by
  refine ⟨?_, fun none => ?_, fun other listable' resembles => ?_, ?_⟩
  · rintro path rfl isFile
    simp [select?, Option.filter, isFile]
  · rw [select?_of_not_isFile dir none]
    refine ⟨fun path => inDir?_eq_some_iff listable, ?_⟩
    rw [inDir?_eq_none_iff listable]
    refine ⟨.inr, fun nothing => nothing.elim ?_ id⟩
    rintro ⟨e, unread⟩ name held offers
    obtain ⟨entries, read⟩ := offers.exists_entries
    cases unread.symm.trans read
  · have same : other.isFile = disk.isFile := funext resembles.isFile
    rw [select?, select?, same, inDir?_congr resembles listable listable']
  · intro snapshot _ other listable' base name held offers same
    exact offers.notMedia (suffix_of_join_eq_mediaArchive (offers.isName listable') same)

/-- Two dumps that were changed at one time, and an archive that was changed after them. -/
def tiedDumps : Entries :=
  [("a.sql.gz", .file { content := [], modified := 5 }),
    ("b.sql.gz", .file { content := [], modified := 5 }),
    ("b.sql.media.tar.gz", .file { content := [], modified := 9 })]

theorem select?_latest_tied :
    let disk : Disk := { tree := FileTree.empty.put ["p"] (.dir tiedDumps) }
    let other : Disk := { tree := FileTree.empty.put ["p"] (.dir tiedDumps.reverse) }
    disk.tree.Listable ∧ other.tree.Listable ∧ disk.Resembles other ∧
    disk.isFile ⟨"p/a.sql.gz"⟩ ∧
    select? disk (some ⟨"p/a.sql.gz"⟩) ⟨"p"⟩ = some ⟨"p/a.sql.gz"⟩ ∧
    select? disk none ⟨"p"⟩ = some ⟨"p/b.sql.gz"⟩ ∧ Latest disk ⟨"p"⟩ ⟨"p/b.sql.gz"⟩ ∧
    select? other none ⟨"p"⟩ = some ⟨"p/b.sql.gz"⟩ ∧
    ∃ name held, Offers disk ⟨"p"⟩ name held ∧
      (⟨"p"⟩ : Path).join name ≠ mediaArchive ⟨"p/b.sql.gz"⟩ := by
  intro disk other
  have proper : ∀ name ∈ ["p"], IsName name := by decide +kernel
  have plain : (FileTree.dir tiedDumps).Plain := by
    simp only [tiedDumps, plain_dir_iff, plain_file, List.forall_mem_cons, List.not_mem_nil,
      false_imp_iff, implies_true, and_true]
    decide +kernel
  have plain' : (FileTree.dir tiedDumps.reverse).Plain :=
    plain_dir_iff.2 ⟨List.map_reverse .. ▸ List.nodup_reverse.2 plain.nodup, fun entry mem =>
      (plain_dir_iff.1 plain).2 entry (List.mem_reverse.1 mem)⟩
  have listable : disk.tree.Listable := (plain_empty.put proper plain).listable
  have listable' : other.tree.Listable := (plain_empty.put proper plain').listable
  have empty : Disk.Resembles { tree := .empty } { tree := .empty } := ⟨rfl, fun _ => rfl⟩
  have resembles : disk.Resembles other :=
    empty.put (node?_dir_perm plain.nodup (List.reverse_perm _)) ["p"]
  have isFile : disk.isFile ⟨"p/a.sql.gz"⟩ := by decide +kernel
  have selected : select? disk none ⟨"p"⟩ = some ⟨"p/b.sql.gz"⟩ := by decide +kernel
  obtain ⟨asked, -, -, -⟩ := select?_latest listable (some ⟨"p/a.sql.gz"⟩) ⟨"p"⟩
  obtain ⟨-, found, same, apart⟩ := select?_latest listable none ⟨"p"⟩
  have latest := ((found nofun).1 _).1 selected
  obtain ⟨name, held, offers, greatest⟩ := latest
  exact ⟨listable, listable', resembles, isFile, asked _ rfl isFile, selected,
    ⟨name, held, offers, greatest⟩, (same other listable' resembles).trans selected, name, held,
    offers, apart _ selected disk listable _ name held offers⟩

/-- A file the path of which is too long is not selected, even if there is no other. -/
theorem select?_of_long (listable : disk.tree.Listable)
    (read : disk.entries dir = .ok [(name, .file held)]) (long : ¬ Disk.Fits (dir.join name)) :
    select? disk none dir = none := by
  rw [select?_of_not_isFile dir (by simp), inDir?_eq_none_iff listable]
  intro other held' offers
  obtain ⟨read', entry, fits⟩ | ⟨read', entry, -⟩ := offers.regular
  · obtain rfl := Except.ok.inj (read.symm.trans read')
    obtain ⟨rfl, -⟩ := Prod.mk.inj (List.mem_singleton.1 entry)
    exact long fits
  · obtain rfl := Except.ok.inj (read.symm.trans read')
    cases List.mem_singleton.1 entry

/-- A dump the path of which is too long is passed over, although its directory can be read. -/
theorem select?_too_long :
    let name := Path.longName 200 ++ ".gz"
    let deep := List.replicate 20 (Path.longName 200)
    let listed : Entries := [(name, .file { content := [] })]
    let disk : Disk := { tree := FileTree.empty.put ("d" :: deep) (.dir listed) }
    let dir : Path := Path.below ⟨"d"⟩ deep
    disk.tree.Listable ∧ ¬ (select? disk none dir = none ↔
      (∃ e, disk.entries dir = .error e) ∨ ∀ entries, disk.entries dir = .ok entries →
        ∀ name held, (name, .file held) ∈ entries → ".gz".toList <:+ name.toList →
          ".media.tar.gz".toList <:+ name.toList) := by
  intro name deep listed disk dir
  have proper : ∀ other ∈ deep, IsName other :=
    Path.isName_of_mem_row _ (by decide) (by decide)
  have isName : IsName name := by decide +kernel
  have plain : disk.tree.Plain :=
    plain_empty.put (List.forall_mem_cons.2 ⟨by decide +kernel, proper⟩)
      (plain_dir_iff.2 ⟨List.nodup_singleton _, List.forall_mem_singleton.2 ⟨isName, plain_file _⟩⟩)
  have start : disk.Reaches ⟨"d"⟩ ["d"] :=
    Disk.reaches_name (.of_plain plain _) rfl (by decide +kernel)
  have reaches : disk.Reaches dir ("d" :: deep) := start.below proper
  have size : dir.text.utf8ByteSize = 4021 := by
    rw [start.leads.size_below proper]
    decide +kernel
  have read : disk.entries dir = .ok listed :=
    (Disk.entries_eq_ok_iff reaches).2
      ⟨by rw [Disk.Fits, size]; decide, get?_put_self FileTree.empty _ _⟩
  have long : ¬ Disk.Fits (dir.join name) := by
    rw [Disk.Fits, reaches.leads.size_join isName, size]
    decide +kernel
  have passed : select? disk none dir = none := select?_of_long plain.listable read long
  refine ⟨plain.listable, fun same => ?_⟩
  obtain ⟨e, unread⟩ | none := same.1 passed
  · cases read.symm.trans unread
  · have media := none _ read name _ (List.mem_singleton_self _)
    exact absurd media (by decide +kernel)

end AssetSeed.Snapshot
