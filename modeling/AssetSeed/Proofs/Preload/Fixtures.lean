import AssetSeed.Preload.Fixtures
import AssetSeed.Proofs.Files.Inside
import AssetSeed.Proofs.Text.Occurrences
import AssetSeed.Proofs.Text.Utf8

/-!
# What is staged

A staged copy holds what is in the fixtures, and besides the files that are made from defaults. None
of these takes the place of something else, and none has an effect on the others.

## Main definitions

* `Fixtures.Makes` — the file that is made of defaults.
* `Fixtures.Filled` — a directory with the files that are made for some kinds.
* `Fixtures.Shows` — what is to be seen in a staged copy.
* `Fixtures.Offers` — a disk with fixtures on it.

## Main statements

* `Fixtures.fillKind_of_makes`, `Fixtures.fillKind_of_not_makes` — one kind.
* `Fixtures.foldl_fillKind` — one kind after the other.
* `Fixtures.staged_eq_ok_iff`, `Fixtures.Offers.staged_iff` — when fixtures are staged, and what the
  disk is then.
* `Fixtures.stage_fills` — what is staged.
-/

namespace AssetSeed.Fixtures

open AssetSeed.Path FileTree Disk Text

/-- The file for a kind, from what is in the place of its defaults and in its own place: defaults
that are a text, and nothing. The token is exchanged for the site. -/
inductive Makes (site : String) : (defaults target : Option Node) → File → Prop
  | fill {defaults : File} {text filled : String} : defaults.content = utf8Encode text →
      Exchanges siteToken.toList site.toList text.toList filled.toList →
      Makes site (some (.file defaults)) none { content := utf8Encode filled }

/-- What is made for a kind from what is in a directory. -/
def MakesIn (tree : FileTree) (site kind : String) (held : File) : Prop :=
  Makes site (tree.node? [defaultsName kind]) (tree.node? [fileName kind]) held

theorem makes_iff {site : String} {defaults target : Option Node} {held : File} :
    Makes site defaults target held ↔ target = none ∧ ∃ old text,
      defaults = some (.file old) ∧ utf8Decode? old.content = some text ∧
      held = { content := utf8Encode (forSite site text) } := by
  have nonempty : siteToken.toList ≠ [] := by decide
  constructor
  · rintro ⟨content, exchanges⟩
    refine ⟨rfl, _, _, rfl, utf8Decode?_eq_some_iff.2 content, ?_⟩
    rw [exchanges_iff nonempty] at exchanges
    rw [forSite, ← exchanges, String.ofList_toList]
  · rintro ⟨rfl, old, text, rfl, decoded, rfl⟩
    refine .fill (utf8Decode?_eq_some_iff.1 decoded) ((exchanges_iff nonempty).2 ?_)
    rw [forSite, String.toList_ofList]

/-- Copied defaults are as good. -/
theorem makes_copy_iff {site : String} {defaults target : Option Node} {held : File} :
    Makes site (defaults.map Node.copy) (target.map Node.copy) held ↔
      Makes site defaults target held := by
  rw [makes_iff, makes_iff, Option.map_eq_none_iff]
  refine and_congr_right fun _ => ?_
  cases defaults with
  | none => simp
  | some node => cases node <;> simp [Node.copy]

theorem Makes.unique {site : String} {defaults target : Option Node} {held held' : File}
    (makes : Makes site defaults target held) (makes' : Makes site defaults target held') :
    held = held' := by
  obtain ⟨-, old, text, rfl, decoded, rfl⟩ := makes_iff.1 makes
  obtain ⟨-, _, _, same, decoded', rfl⟩ := makes_iff.1 makes'
  cases same
  rw [Option.some.inj (decoded.symm.trans decoded')]

/-! ## Names -/

section

variable {kind : String} (known : kind ∈ kinds)

include known

theorem isName_fileName : IsName (fileName kind) := by
  revert kind; decide +kernel

theorem isName_defaultsName : IsName (defaultsName kind) := by
  revert kind; decide +kernel

/-- The name of defaults is the longer one. -/
theorem size_fileName_le : (fileName kind).utf8ByteSize ≤ (defaultsName kind).utf8ByteSize := by
  revert kind; decide +kernel

theorem fits_fileName {current there : List String} {dir : Path} (leads : Leads current dir there)
    (fits : Fits (dir.join (defaultsName kind))) : Fits (dir.join (fileName kind)) := by
  have shorter := size_fileName_le known
  rw [Fits, leads.size_join (isName_defaultsName known)] at fits
  rw [Fits, leads.size_join (isName_fileName known)]
  omega

theorem fileName_ne {other : String} (known' : other ∈ kinds) :
    defaultsName other ≠ fileName kind ∧ (other ≠ kind → fileName other ≠ fileName kind) := by
  revert kind other; decide +kernel

end

/-! ## One kind -/

section

variable {disk : Disk} {tree : FileTree} {site kind : String} {dir : Path} {there : List String}
  (reaches : disk.Reaches dir there) (found : disk.tree.get? there = some tree)
  (known : kind ∈ kinds)

include reaches found known

theorem fillKind_of_makes (isDir : tree.node = .dir) (fits : Fits (dir.join (defaultsName kind)))
    {held : File} (makes : MakesIn tree site kind held) : fillKind dir site disk kind =
      disk.put there (tree.put [fileName kind] (.file held)) := by
  obtain ⟨free, old, text, defaults, decoded, rfl⟩ := makes_iff.1 makes
  have from_defaults := reaches.join (isName_defaultsName known)
  have to_target := reaches.join (isName_fileName known)
  have fits' := fits_fileName known reaches.leads fits
  rw [← node?_below found] at free defaults
  have isFile : disk.isFile (dir.join (defaultsName kind)) :=
    (isFile_iff from_defaults).2 ⟨fits, old, defaults⟩
  have missing : disk.exists? (dir.join (fileName kind)) = false := by
    rw [← Bool.not_eq_true, exists?_iff to_target]
    exact fun there => there.2 free
  have read := readText_of_file from_defaults fits (node?_eq_file_iff.1 defaults)
  have parent : disk.tree.node? there = some .dir := by
    rw [node?, found, Option.map_some, isDir]
  have written := write_of_missing to_target fits' parent (node?_eq_none_iff.1 free)
  rw [decoded] at read
  rw [fillKind, isFile, missing]
  simp only [bind, Except.bind, read, written]
  exact put_below found [fileName kind] _

theorem fillKind_of_not_makes (unmade : ∀ held, ¬ MakesIn tree site kind held) :
    fillKind dir site disk kind = disk := by
  have from_defaults := reaches.join (isName_defaultsName known)
  have to_target := reaches.join (isName_fileName known)
  rw [fillKind]
  by_cases free : disk.isFile (dir.join (defaultsName kind)) ∧
      ¬ disk.exists? (dir.join (fileName kind))
  swap
  · rw [not_and_or, not_not, Bool.not_eq_true] at free
    obtain other | there := free
    · rw [other]; rfl
    · rw [there, Bool.or_true]; rfl
  obtain ⟨isFile, missing⟩ := free
  obtain ⟨fits, old, defaults⟩ := (isFile_iff from_defaults).1 isFile
  have fits' := fits_fileName known reaches.leads fits
  rw [exists?_iff to_target, not_and, not_not] at missing
  have read := readText_of_file from_defaults fits (node?_eq_file_iff.1 defaults)
  rw [node?_below found] at defaults missing
  cases decoded : utf8Decode? old.content with
  | some text =>
    exact absurd (makes_iff.2 ⟨missing fits', old, text, defaults, decoded, rfl⟩) (unmade _)
  | none =>
    rw [decoded] at read
    simp only [bind, Except.bind, read]
    exact ite_self disk

end

/-! ## One kind after the other -/

/-- A directory in which the files of the given kinds have been made, as far as they can be, and
nothing else is different. -/
structure Filled (tree : FileTree) (site : String) (done : List String) (filled : FileTree) :
    Prop where
  made : ∀ kind ∈ done, ∀ held, MakesIn tree site kind held →
    filled.node? [fileName kind] = some (.file held)
  kept : ∀ rel, (∀ kind ∈ done, ∀ held, MakesIn tree site kind held → rel ≠ [fileName kind]) →
    filled.node? rel = tree.node? rel

section

variable {tree filled : FileTree} {site kind : String} {done : List String}
  (known : ∀ other ∈ kind :: done, other ∈ kinds) (fresh : kind ∉ done)

include known fresh

theorem Filled.cons_of_makes {held : File} (isDir : tree.node = .dir)
    (makes : MakesIn tree site kind held)
    (filled_others : Filled (tree.put [fileName kind] (.file held)) site done filled) :
    Filled tree site (kind :: done) filled := by
  have free : tree.get? [fileName kind] = none := node?_eq_none_iff.1 (makes_iff.1 makes).1
  have seen (rel : List String) := node?_put_file isDir free held rel
  have known' := known kind List.mem_cons_self
  have apart {other : String} (mem : other ∈ done) :
      defaultsName other ≠ fileName kind ∧ fileName other ≠ fileName kind := by
    obtain ⟨differ, differ'⟩ := fileName_ne known' (known other (List.mem_cons_of_mem _ mem))
    exact ⟨differ, differ' fun same => fresh (same ▸ mem)⟩
  have same {other : String} (mem : other ∈ done) {held' : File} :
      MakesIn (tree.put [fileName kind] (.file held)) site other held' ↔
        MakesIn tree site other held' := by
    obtain ⟨differ, differ'⟩ := apart mem
    rw [MakesIn, MakesIn, seen, seen, if_neg (by simpa using differ),
      if_neg (by simpa using differ')]
  constructor
  · intro other mem held' makes'
    obtain rfl | mem := List.mem_cons.1 mem
    · have others := filled_others.kept [fileName other] fun next mem' _ _ eq =>
        (apart mem').2 (List.cons.inj eq).1.symm
      rw [others, seen, if_pos rfl, makes.unique makes']
    · exact filled_others.made other mem held' ((same mem).2 makes')
  · intro rel outside
    obtain ⟨outside, others⟩ := List.forall_mem_cons.1 outside
    rw [filled_others.kept rel fun other mem held' makes' =>
      others other mem held' ((same mem).1 makes'), seen, if_neg (outside held makes)]

end

theorem Filled.cons_of_not_makes {tree filled : FileTree} {site kind : String} {done : List String}
    (unmade : ∀ held, ¬ MakesIn tree site kind held)
    (filled_others : Filled tree site done filled) :
    Filled tree site (kind :: done) filled where
  made := List.forall_mem_cons.2
    ⟨fun held makes => absurd makes (unmade held), filled_others.made⟩
  kept rel outside := filled_others.kept rel (List.forall_mem_cons.1 outside).2

/-- By induction on the kinds. What has been made for one of them is neither among the defaults of
the others nor in the way of their files. -/
theorem foldl_fillKind {disk : Disk} {tree : FileTree} {site : String} {done : List String}
    {dir : Path} {there : List String} (known : ∀ kind ∈ done, kind ∈ kinds) (distinct : done.Nodup)
    (reaches : disk.Reaches dir there) (found : disk.tree.get? there = some tree)
    (isDir : tree.node = .dir) (fits : ∀ kind ∈ done, tree.node? [defaultsName kind] ≠ none →
      Fits (dir.join (defaultsName kind))) :
    ∃ filled, done.foldl (fillKind dir site) disk = disk.put there filled ∧
      Filled tree site done filled := by
  induction done generalizing disk tree with
  | nil => exact ⟨tree, (Disk.put_get? found).symm, nofun, fun _ _ => rfl⟩
  | cons kind done ih =>
    obtain ⟨fresh, distinct⟩ := List.nodup_cons.1 distinct
    obtain ⟨known', others⟩ := List.forall_mem_cons.1 known
    rw [List.foldl_cons]
    obtain ⟨fits', fits⟩ := List.forall_mem_cons.1 fits
    by_cases makes : ∃ held, MakesIn tree site kind held
    · obtain ⟨held, makes⟩ := makes
      obtain ⟨free, old, -, defaults, -⟩ := makes_iff.1 makes
      have linkless : ∀ rel target,
          (tree.put [fileName kind] (.file held)).get? rel ≠ some (.link target) := by
        intro rel target isLink
        refine reaches.linkless.below rel target ?_
        rw [get?_below found]
        exact get?_of_put_link (linkless_file held) isLink
      have fits_others : ∀ other ∈ done,
          (tree.put [fileName kind] (.file held)).node? [defaultsName other] ≠ none →
            Fits (dir.join (defaultsName other)) := by
        intro other mem there
        have differ := (fileName_ne known' (others other mem)).1
        rw [node?_put_other differ] at there
        exact fits other mem there
      rw [fillKind_of_makes reaches found known' isDir (fits' (defaults ▸ nofun)) makes]
      obtain ⟨filled, run, filled_others⟩ :=
        ih others distinct (reaches.put_self linkless) (get?_put_self ..) rfl fits_others
      exact ⟨filled, run.trans (put_put ..), .cons_of_makes known fresh isDir makes filled_others⟩
    · rw [not_exists] at makes
      rw [fillKind_of_not_makes reaches found known' makes]
      obtain ⟨filled, run, filled_others⟩ := ih others distinct reaches found isDir fits
      exact ⟨filled, run, .cons_of_not_makes makes filled_others⟩

/-! ## What is staged -/

/-- What is to be seen in a staged copy: what is in the fixtures, and what is made of defaults. -/
inductive Shows (tree : FileTree) : (site? : Option String) → (wanted : Bool) →
    (rel : List String) → Node → Prop
  | copied {site? : Option String} {wanted : Bool} {rel : List String} {old : Node} :
      tree.node? rel = some old → Shows tree site? wanted rel old.copy
  | made {site kind : String} {held : File} : kind ∈ kinds → MakesIn tree site kind held →
      Shows tree (some site) true [fileName kind] (.file held)

section

variable {tree copy filled : FileTree} {site? : Option String} {wanted : Bool} {rel : List String}
  {node : Node}

theorem shows_iff_copied (unfilled : ∀ site, ¬ (site? = some site ∧ wanted = true)) :
    Shows tree site? wanted rel node ↔ (tree.node? rel).map Node.copy = some node := by
  rw [Option.map_eq_some_iff]
  constructor
  · intro shows
    cases shows with
    | copied seen => exact ⟨_, seen, rfl⟩
    | made known makes => exact absurd ⟨rfl, rfl⟩ (unfilled _)
  · rintro ⟨old, seen, rfl⟩
    exact .copied seen

theorem Filled.node?_eq_some_iff {site : String}
    (copies : ∀ rel, copy.node? rel = (tree.node? rel).map Node.copy)
    (fill : Filled copy site kinds filled) :
    filled.node? rel = some node ↔ Shows tree (some site) true rel node := by
  have makes_iff' {kind : String} {held : File} :
      MakesIn copy site kind held ↔ MakesIn tree site kind held := by
    rw [MakesIn, MakesIn, copies, copies, makes_copy_iff]
  constructor
  · intro seen
    by_cases makes : ∃ kind ∈ kinds, ∃ held, MakesIn tree site kind held ∧ rel = [fileName kind]
    · obtain ⟨kind, known, held, makes, rfl⟩ := makes
      rw [fill.made kind known held (makes_iff'.2 makes)] at seen
      cases seen
      exact .made known makes
    · rw [fill.kept rel fun kind known held makes' here =>
        makes ⟨kind, known, held, makes_iff'.1 makes', here⟩, copies,
        Option.map_eq_some_iff] at seen
      obtain ⟨old, seen, rfl⟩ := seen
      exact .copied seen
  · intro shows
    cases shows with
    | made known makes => exact fill.made _ known _ (makes_iff'.2 makes)
    | copied seen =>
      rw [fill.kept rel, copies, seen, Option.map_some]
      -- nothing is made where something is
      rintro kind known held makes rfl
      have free := (makes_iff.1 (makes_iff'.1 makes)).1
      rw [free] at seen
      cases seen

end

/-- There are fixtures on the disk, a tree of files and directories, and a path is given for a
temporary directory. No link is on the way to either place. -/
structure Offers (disk : Disk) (source : Path) (here : List String) (tree : FileTree) (dir : Path)
    (there : List String) : Prop where
  plain : tree.Plain
  reaches : disk.Reaches source here
  found : disk.tree.get? here = some tree
  given : disk.scratch = .ok dir
  leads : disk.Reaches dir there

section

variable {disk : Disk} {source dir : Path} {here there : List String} {tree : FileTree}

namespace Offers

variable (offers : Offers disk source here tree dir there)

include offers

theorem makeScratch_eq_ok_iff {dir' : Path} {made : Disk} :
    disk.makeScratch = .ok (dir', made) ↔
      disk.Vacant dir there ∧ dir' = dir ∧ made = disk.put there .empty := by
  rw [Disk.makeScratch_eq_ok_iff, offers.given, Except.ok.injEq]
  constructor
  · rintro ⟨rfl, make⟩
    obtain ⟨vacant, rfl⟩ := (makeDir_eq_ok_iff offers.leads).1 make
    exact ⟨vacant, rfl, rfl⟩
  · rintro ⟨vacant, rfl, rfl⟩
    exact ⟨rfl, (makeDir_eq_ok_iff offers.leads).2 ⟨vacant, rfl⟩⟩

theorem leads_made : (disk.put there .empty).Reaches dir there :=
  offers.leads.put_self linkless_empty

section

variable (vacant : disk.Vacant dir there)

include vacant

theorem behind : ¬ there <+: here := by
  rintro ⟨rest, rfl⟩
  have missing := get?_of_missing vacant.fresh rest
  rw [offers.found] at missing
  cases missing

/-- The fixtures are still there when the temporary directory has been made. -/
theorem reaches_made : (disk.put there .empty).Reaches source here := by
  refine offers.reaches.put linkless_empty fun inside => ?_
  obtain ⟨rest, start⟩ := inside
  obtain ⟨entries, seated⟩ := node?_eq_dir_iff.1 offers.reaches.seated
  rw [← start, get?_of_missing vacant.fresh] at seated
  cases seated

/-- What can be copied does not hold the place where it is staged. -/
theorem ahead {copied : Disk} (copy : (disk.put there .empty).copyDir source dir = .ok copied) :
    ¬ here <+: there := by
  intro within
  obtain ⟨absolute, names, name, -, place_eq, -, isName⟩ := offers.leads.leads.exists_concat
  generalize (if absolute then [] else disk.current) ++ names = above at place_eq
  subst place_eq
  obtain rfl | ⟨inside, rfl⟩ := List.prefix_concat_iff.1 within
  · exact offers.behind vacant (List.prefix_refl _)
  have parent := vacant.parent
  rw [List.dropLast_concat, node?_below offers.found] at parent
  obtain ⟨entries, isDir⟩ := node?_eq_dir_iff.1 parent
  have proper : ∀ other ∈ inside ++ [name], IsName other :=
    List.forall_mem_append.2
      ⟨offers.plain.isName_of_get? isDir, List.forall_mem_singleton.2 isName⟩
  have to_target := offers.leads_made
  have from_source := offers.reaches_made vacant
  rw [List.append_assoc] at copy to_target from_source
  exact copyDir_inside (by simp) proper from_source to_target copied copy

theorem site (ahead : ¬ here <+: there) :
    Site (disk.put there .empty) source dir here there where
  source := offers.reaches_made vacant
  target := offers.leads_made
  ahead := ahead
  behind := offers.behind vacant

theorem found_made (ahead : ¬ here <+: there) :
    (disk.put there .empty).tree.get? here = some tree :=
  (get?_put_of_apart (offers.behind vacant) ahead).trans offers.found

theorem plainAt_made (ahead : ¬ here <+: there) : (disk.put there .empty).tree.PlainAt here := by
  intro held found
  rw [offers.found_made vacant ahead] at found
  cases found
  exact offers.plain

end

end Offers

section

variable {site? : Option String} {wanted : Bool} {dir' : Path} {after : Disk}

/-- Fixtures are staged if and only if a temporary directory can be made and they can be copied into
it. What is filled in has no say in it. -/
theorem staged_eq_ok_iff : Fixtures.staged disk source site? wanted = .ok (dir', after) ↔
    ∃ made copied, disk.makeScratch = .ok (dir', made) ∧ made.copyDir source dir' = .ok copied ∧
      after = fill dir' site? wanted copied := by
  have ofFile_eq_ok_iff {α : Type} {context : String} {x : Except FileError α} {a : α} :
      Failure.ofFile context x = .ok a ↔ x = .ok a := by
    cases x <;> simp [Failure.ofFile]
  simp only [Fixtures.staged, bind_eq_ok_iff, ofFile_eq_ok_iff, pure, Except.pure,
    Except.ok.injEq, Prod.mk.injEq, Prod.exists]
  constructor
  · rintro ⟨_, made, make, copied, copy, rfl, rfl⟩
    exact ⟨made, copied, make, copy, rfl⟩
  · rintro ⟨made, copied, make, copy, rfl⟩
    exact ⟨_, made, make, copied, copy, rfl, rfl⟩

namespace Offers

variable (offers : Offers disk source here tree dir there)

include offers

theorem copyDir_made_iff (vacant : disk.Vacant dir there) {copied : Disk} :
    (disk.put there .empty).copyDir source dir = .ok copied ↔ ¬ here <+: there ∧
      Copyable (disk.put there .empty) source dir here there ∧
        copied = (disk.put there .empty).afterCopy source dir := by
  constructor
  · intro copy
    have ahead := offers.ahead vacant copy
    exact ⟨ahead, (copyDir_eq_ok_iff (offers.plainAt_made vacant ahead)
      (offers.site vacant ahead)).1 copy⟩
  · rintro ⟨ahead, copyable⟩
    exact (copyDir_eq_ok_iff (offers.plainAt_made vacant ahead)
      (offers.site vacant ahead)).2 copyable

/-- Fixtures are staged exactly if there is room for the temporary directory and they can be copied
into it. -/
theorem staged_iff : Fixtures.staged disk source site? wanted = .ok (dir', after) ↔
    disk.Vacant dir there ∧ ¬ here <+: there ∧
      Copyable (disk.put there .empty) source dir here there ∧ dir' = dir ∧
      after = fill dir site? wanted ((disk.put there .empty).afterCopy source dir) := by
  simp only [staged_eq_ok_iff, offers.makeScratch_eq_ok_iff]
  constructor
  · rintro ⟨_, copied, ⟨vacant, rfl, rfl⟩, copy, rfl⟩
    obtain ⟨ahead, copyable, rfl⟩ := (offers.copyDir_made_iff vacant).1 copy
    exact ⟨vacant, ahead, copyable, rfl, rfl⟩
  · rintro ⟨vacant, ahead, copyable, rfl, rfl⟩
    exact ⟨_, _, ⟨vacant, rfl, rfl⟩, (offers.copyDir_made_iff vacant).2 ⟨ahead, copyable, rfl⟩, rfl⟩

end Offers

/-- The copy is put where nothing was, and filled there. -/
theorem staged_fills (offers : Offers disk source here tree dir there)
    (run : Fixtures.staged disk source site? wanted = .ok (dir', after)) :
    ∃ filled, after = disk.put there filled ∧
      ∀ rel node, filled.node? rel = some node ↔ Shows tree site? wanted rel node := by
  obtain ⟨vacant, ahead, copyable, rfl, rfl⟩ := offers.staged_iff.1 run
  have found := offers.found_made vacant ahead
  obtain ⟨copy, copied, linkless, seen⟩ :=
    afterCopy_eq (offers.plainAt_made vacant ahead) (offers.site vacant ahead) copyable
  rw [Disk.put_put] at copied
  have isDir : tree.node? [] = some .dir := by
    have isDir := copyable.isDir
    rwa [node?, found, Option.map_some, ← node?_nil] at isDir
  have copies (rel : List String) : copy.node? rel = (tree.node? rel).map Node.copy := by
    have nothing : (disk.put there .empty).tree.node? (there ++ rel) = empty.node? rel :=
      congrArg (Option.map node) (get?_put_append ..)
    rw [seen, node?_below found, nothing]
    cases rel with
    | nil => rw [isDir]; rfl
    | cons name rest => exact Option.or_none
  have copy_isDir : copy.node = .dir := by
    have root := copies []
    rw [node?_nil, isDir] at root
    exact Option.some.inj root
  rw [copied]
  by_cases filling : ∃ site, site? = some site ∧ wanted = true
  · obtain ⟨site, rfl, rfl⟩ := filling
    have fits (kind : String) (some : copy.node? [defaultsName kind] ≠ none) :
        Fits (dir'.join (defaultsName kind)) := by
      rw [copies, ne_eq, Option.map_eq_none_iff, ← node?_below found] at some
      exact (copyable.fits [defaultsName kind] some).2
    obtain ⟨filled, run, fill⟩ := foldl_fillKind (fun _ known => known) (by decide)
      (offers.leads.put_self linkless) (get?_put_self ..) copy_isDir fun kind _ => fits kind
    exact ⟨filled, run.trans (Disk.put_put ..), fun rel node => fill.node?_eq_some_iff copies⟩
  · rw [not_exists] at filling
    refine ⟨copy, ?_, fun rel node => ?_⟩
    · cases site? with
      | none => rfl
      | some site =>
        cases wanted with
        | false => rfl
        | true => exact absurd ⟨rfl, rfl⟩ (filling site)
    · rw [shows_iff_copied filling, copies]

theorem stage_eq_ok_iff (offers : Offers disk source here tree dir there) {copy : FileTree} :
    stage disk source site? wanted = .ok copy ↔
      ∃ after, Fixtures.staged disk source site? wanted = .ok (dir, after) ∧
        after.tree.get? there = some copy := by
  have found_iff {after : Disk}
      (run : Fixtures.staged disk source site? wanted = .ok (dir, after)) :
      after.find dir = .ok copy ↔ after.tree.get? there = some copy := by
    have fits := (offers.staged_iff.1 run).1.fits
    obtain ⟨filled, rfl, seen⟩ := staged_fills offers run
    have linkless : ∀ rel target, filled.get? rel ≠ some (.link target) := by
      intro rel target link
      have shows := (seen rel _).1 (node?_eq_link_iff.2 link)
      generalize node_eq : Node.link target = node at shows
      cases shows with
      | made known makes => cases node_eq
      | @copied _ _ _ old seen =>
        cases old <;> cases node_eq
        exact offers.plain.linkless _ _ (node?_eq_link_iff.1 seen)
    rw [find_eq_ok_iff (offers.leads.put_self linkless), and_iff_right fits]
  rw [stage]
  cases run : Fixtures.staged disk source site? wanted with
  | error e => simp [bind, Except.bind]
  | ok staged =>
    obtain ⟨dir', after⟩ := staged
    obtain ⟨-, -, -, rfl, -⟩ := offers.staged_iff.1 run
    simp only [bind, Except.bind, Except.ok.injEq, Prod.mk.injEq, true_and, exists_eq_left',
      ← found_iff run]
    cases after.find dir' <;> simp [Failure.ofFile]

/-- What is to be seen for a kind depends on its own two places only. -/
theorem Shows.of_same {tree' : FileTree} {kind : String} {node : Node} (known : kind ∈ kinds)
    (defaults : tree'.node? [defaultsName kind] = tree.node? [defaultsName kind])
    (target : tree'.node? [fileName kind] = tree.node? [fileName kind])
    (shows : Shows tree site? wanted [fileName kind] node) :
    Shows tree' site? wanted [fileName kind] node := by
  generalize here : [fileName kind] = rel at shows
  cases shows with
  | copied seen => exact .copied (by rw [← here, target, here, seen])
  | @made site other held known' makes =>
    obtain rfl : kind = other := by
      by_contra differ
      exact (fileName_ne known' known).2 differ (List.cons.inj here).1
    refine .made known ?_
    rw [MakesIn, defaults, target]
    exact makes

/-- What is staged are the fixtures with all their files, byte for byte, and besides only the files
that are made of defaults, in places where nothing was: if there is a site and that is wanted, one
for each kind that has defaults which are a text, with the site for every occurrence of its token.
What is made for a kind does not depend on anything else than its defaults and what is in its place.
All that is in a new directory. The fixtures, and whatever is not in that directory, stay as they
are. -/
theorem stage_fills (offers : Offers disk source here tree dir there) {copy : FileTree}
    (run : stage disk source site? wanted = .ok copy) :
    (∀ rel node, copy.node? rel = some node ↔ Shows tree site? wanted rel node) ∧
    (∀ kind ∈ kinds, ∀ disk' source' here' tree' dir' there' copy',
      Offers disk' source' here' tree' dir' there' →
      stage disk' source' site? wanted = .ok copy' →
      tree'.node? [defaultsName kind] = tree.node? [defaultsName kind] →
      tree'.node? [fileName kind] = tree.node? [fileName kind] →
      copy'.node? [fileName kind] = copy.node? [fileName kind]) ∧
    disk.tree.get? there = none ∧
    ∃ after, Fixtures.staged disk source site? wanted = .ok (dir, after) ∧
      after.tree.get? there = some copy ∧ after.tree.get? here = some tree ∧
      (∀ place, ¬ there <+: place → ¬ place <+: there →
        after.tree.get? place = disk.tree.get? place) ∧
      ∀ place, ¬ there <+: place → after.tree.node? place = disk.tree.node? place := by
  have staged_shows {disk : Disk} {source dir : Path} {here there : List String}
      {tree copy : FileTree} (offers : Offers disk source here tree dir there)
      (run : stage disk source site? wanted = .ok copy) :
      ∀ rel node, copy.node? rel = some node ↔ Shows tree site? wanted rel node := by
    obtain ⟨after, run, found⟩ := (stage_eq_ok_iff offers).1 run
    obtain ⟨filled, rfl, seen⟩ := staged_fills offers run
    rw [Disk.put, get?_put_self, Option.some_inj] at found
    exact found ▸ seen
  obtain ⟨after, run', found⟩ := (stage_eq_ok_iff offers).1 run
  obtain ⟨vacant, ahead, -⟩ := offers.staged_iff.1 run'
  refine ⟨staged_shows offers run, ?_, vacant.fresh, after, run', found, ?_⟩
  · intro kind known disk' source' here' tree' dir' there' copy' offers' run' defaults target
    refine Option.ext fun node => ?_
    rw [staged_shows offers run, staged_shows offers' run']
    exact ⟨.of_same known defaults.symm target.symm, .of_same known defaults target⟩
  · obtain ⟨filled, rfl, -⟩ := staged_fills offers run'
    have kept (place : List String) (before : ¬ there <+: place) (behind : ¬ place <+: there) :
        (disk.put there filled).tree.get? place = disk.tree.get? place :=
      get?_put_of_apart before behind
    have offered := offers.behind vacant
    refine ⟨(kept here offered ahead).trans offers.found, kept, fun place outside => ?_⟩
    exact vacant.node?_put filled outside

end

end

/-- There is a directory for temporary ones, and a link elsewhere. -/
theorem stage_fills_vrfs :
    let defaults : File := { content := utf8Encode "- NETBOX_DEFAULT_SITE-NETBOX_DEFAULT_SITE" }
    let tree : FileTree := .dir [("vrfs_defaults.yml", .file defaults), ("deep", .dir
      [("prefixes_defaults.yml", .file defaults)]), ("vrfs", .file { content := [0, 255] })]
    let disk : Disk :=
      { tree := .dir [("f", tree), ("tmp", .empty), ("l", .link "f")], scratch := .ok ⟨"/tmp/x7"⟩ }
    Offers disk ⟨"f"⟩ ["f"] tree ⟨"/tmp/x7"⟩ ["tmp", "x7"] ∧
    ∃ copy, stage disk ⟨"f"⟩ (some "HQ") true = .ok copy ∧
      copy.node? ["vrfs.yml"] = some (.file { content := utf8Encode "- HQ-HQ" }) ∧
      copy.node? ["vrfs"] = some (.file { content := [0, 255] }) := by
  intro defaults tree disk
  have plain : tree.Plain := by
    simp only [tree, plain_dir_iff, plain_file, List.forall_mem_cons, List.not_mem_nil,
      false_imp_iff, implies_true, and_true]
    decide +kernel
  have spelled : (⟨"/tmp/x7"⟩ : Path) = spell true ["tmp", "x7"] := by decide +kernel
  have proper : ∀ name ∈ ["tmp", "x7"], IsName name := by decide +kernel
  have way : Clear disk.tree ["tmp", "x7"] :=
    show Clear disk.tree (["tmp"] ++ ["x7"]) from clear_concat rfl nofun
  have offers : Offers disk ⟨"f"⟩ ["f"] tree ⟨"/tmp/x7"⟩ ["tmp", "x7"] :=
    { plain
      reaches := reaches_name (.of_found rfl plain) rfl (by decide +kernel)
      found := rfl
      given := rfl
      leads := spelled ▸ ⟨.of_missing way rfl,
        (start_spell (List.cons_ne_nil _ _) proper).symm ▸ rfl, .spelled true nofun proper⟩ }
  have staged : (stage disk ⟨"f"⟩ (some "HQ") true).isOk := by decide +kernel
  cases run : stage disk ⟨"f"⟩ (some "HQ") true with
  | error e => rw [run] at staged; cases staged
  | ok copy =>
    have seen := (stage_fills offers run).1
    have name : fileName "vrfs" = "vrfs.yml" := by decide +kernel
    have made : MakesIn tree "HQ" "vrfs" { content := utf8Encode "- HQ-HQ" } :=
      makes_iff.2 ⟨by decide, defaults, _, rfl, utf8Decode?_eq_some_iff.2 rfl, by decide +kernel⟩
    have kept : Shows tree (some "HQ") true ["vrfs"] (Node.copy (.file { content := [0, 255] })) :=
      .copied rfl
    have shows := Shows.made (by decide) made
    rw [name] at shows
    exact ⟨offers, copy, rfl, (seen _ _).2 shows, (seen _ _).2 kept⟩

end AssetSeed.Fixtures
