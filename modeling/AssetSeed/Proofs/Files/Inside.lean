import AssetSeed.Proofs.Files.Copy
import AssetSeed.Proofs.Files.Follow

/-!
# No directory is copied into itself

A copy of a directory into itself would have to hold itself. Each level that is copied adds another
one to what is still to be copied, until the paths are too long. As long as that goes on, the disk
only grows.

## Main definitions

* `Disk.Grows` — directories and links are where they were, and so are files, whatever is in them.

## Main statements

* `Disk.Grows.follow`, `Disk.Grows.opened` — what is followed on a disk is followed to the same
  place on one that has grown.
* `Disk.grows_makeDir`, `Disk.grows_copyFile`, `Disk.grows_copyOne` — copies let a disk grow.
* `Disk.copyUpTo_inside`, `Disk.copyDir_inside` — a directory cannot be copied into itself.
-/

namespace AssetSeed.Disk

open AssetSeed.Path FileTree

/-- Nothing has become anything else, and no link has been made. The content of files may be
another one. -/
structure Grows (old new : Disk) : Prop where
  current : new.current = old.current
  dirs : ∀ place, old.tree.node? place = some .dir → new.tree.node? place = some .dir
  files : ∀ place held, old.tree.node? place = some (.file held) →
    ∃ held', new.tree.node? place = some (.file held')
  links : ∀ place target,
    new.tree.node? place = some (.link target) ↔ old.tree.node? place = some (.link target)

variable {disk old mid new after : Disk} {path source target : Path}
  {place here above : List String} {name : String}

namespace Grows

theorem refl (disk : Disk) : disk.Grows disk :=
  ⟨rfl, fun _ isDir => isDir, fun _ held isFile => ⟨held, isFile⟩, fun _ _ => .rfl⟩

theorem trans (first : old.Grows mid) (second : mid.Grows new) : old.Grows new where
  current := second.current.trans first.current
  dirs place isDir := second.dirs place (first.dirs place isDir)
  files place held isFile := by
    obtain ⟨held', isFile'⟩ := first.files place held isFile
    exact second.files place held' isFile'
  links place target := (second.links place target).trans (first.links place target)

/-- A tree is put into a directory, where nothing is, or a file in the place of another one. -/
theorem put {tree : FileTree} (parent : disk.tree.node? above = some .dir)
    (linkless : ∀ rel target, tree.get? rel ≠ some (.link target))
    (free : disk.tree.get? (above ++ [name]) = none ∨
      ∃ held held', disk.tree.get? (above ++ [name]) = some (.file held) ∧ tree = .file held') :
    disk.Grows (disk.put (above ++ [name]) tree) := by
  have inside (rel : List String) {node : Node}
      (seen : disk.tree.node? (above ++ [name] ++ rel) = some node) :
      rel = [] ∧ (∃ held, node = .file held) ∧ ∃ held', tree = .file held' := by
    obtain missing | ⟨held, held', here, isFile⟩ := free
    · rw [node?_eq_none_iff.2 (get?_of_missing missing rel)] at seen
      cases seen
    · rw [node?_below here] at seen
      cases rel with
      | nil => exact ⟨rfl, ⟨held, (Option.some.inj seen).symm⟩, held', isFile⟩
      | cons first rest => rw [node?_file_cons] at seen; cases seen
  have outside {other : List String} (elsewhere : ¬ above ++ [name] <+: other) :
      (disk.put (above ++ [name]) tree).tree.node? other = disk.tree.node? other :=
    node?_put_of_not_isPrefix parent elsewhere
  constructor
  case current => rfl
  case dirs =>
    intro other isDir
    by_cases within : above ++ [name] <+: other
    · obtain ⟨rel, rfl⟩ := within
      obtain ⟨-, ⟨held, isFile⟩, -⟩ := inside rel isDir
      cases isFile
    · rwa [outside within]
  case files =>
    intro other held isFile
    by_cases within : above ++ [name] <+: other
    · obtain ⟨rel, rfl⟩ := within
      obtain ⟨rfl, -, held', rfl⟩ := inside rel isFile
      exact ⟨held', node?_eq_file_iff.2 (get?_put_append ..)⟩
    · exact ⟨held, by rwa [outside within]⟩
  case links =>
    intro other target
    by_cases within : above ++ [name] <+: other
    · obtain ⟨rel, rfl⟩ := within
      constructor
      · intro isLink
        rw [node?_eq_link_iff, Disk.put, get?_put_append] at isLink
        exact absurd isLink (linkless rel target)
      · intro isLink
        obtain ⟨-, ⟨held, isFile⟩, -⟩ := inside rel isLink
        cases isFile
    · rw [outside within]

variable (grows : old.Grows new)

include grows

theorem isLink_iff {text : String} :
    new.tree.get? place = some (.link text) ↔ old.tree.get? place = some (.link text) := by
  rw [← node?_eq_link_iff, grows.links, node?_eq_link_iff]

/-! ## Ways that stay -/

/-- By induction on the steps: what they need is still there. -/
theorem walk {links : Nat} {jump jump' : (place steps : List String) → Except FileError Arrival}
    (onward : ∀ place steps arrival, jump place steps = .ok arrival →
      jump' place steps = .ok arrival) {steps : List String} {arrival : Arrival}
    (led : Disk.walk old.tree links jump place steps = .ok arrival) :
    Disk.walk new.tree links jump' place steps = .ok arrival := by
  induction steps generalizing place with
  | nil => rwa [Disk.walk] at led ⊢
  | cons step rest ih =>
    rw [walk_eq_node?] at led ⊢
    cases seen : old.tree.node? place with
    | none => rw [seen] at led; cases led
    | some node =>
      cases node with
      | file | link => rw [seen] at led; cases led
      | dir =>
        rw [seen] at led
        rw [grows.dirs place seen]
        dsimp only at led ⊢
        split_ifs at led ⊢ with idle back long
        · exact ih led
        · exact ih led
        · cases next : old.tree.node? (place ++ [step]) with
          | none => rw [next] at led; cases led
          | some node =>
            rw [next] at led
            cases node with
            | dir =>
              rw [grows.dirs _ next]
              exact ih led
            | file held =>
              obtain ⟨held', next'⟩ := grows.files _ held next
              rw [next']
              exact ih led
            | link target =>
              rw [(grows.links _ target).2 next]
              exact onward _ _ _ led

theorem follow {links : Nat} {steps : List String} {arrival : Arrival}
    (led : Disk.follow old.tree links place steps = .ok arrival) :
    Disk.follow new.tree links place steps = .ok arrival := by
  induction links generalizing place steps arrival with
  | zero => exact grows.walk (fun _ _ _ none => none) led
  | succ links ih => exact grows.walk (fun _ _ _ led => ih led) led

theorem slotOf {start before : List String}
    (found : Disk.slotOf old.tree start before name = .ok place) :
    Disk.slotOf new.tree start before name = .ok place := by
  obtain ⟨arrival, led, found⟩ := bind_eq_ok_iff.1 found
  refine bind_eq_ok_iff.2 ⟨arrival, grows.follow led, ?_⟩
  dsimp only at found ⊢
  split at found
  · next entries isDir =>
    obtain ⟨entries', isDir'⟩ :=
      node?_eq_dir_iff.1 (grows.dirs _ (node?_eq_dir_iff.2 ⟨entries, isDir⟩))
    rw [isDir']
    exact found
  · cases found
  · cases found

theorem slot (found : old.slot path = .ok place) : new.slot path = .ok place := by
  obtain ⟨_, check, found⟩ := bind_eq_ok_iff.1 found
  refine bind_eq_ok_iff.2 ⟨_, check, ?_⟩
  split at found
  · cases found
  · next name before steps =>
    obtain ⟨seat, there, found⟩ := bind_eq_ok_iff.1 found
    rw [Disk.start, grows.current]
    exact bind_eq_ok_iff.2 ⟨seat, grows.slotOf there, found⟩

theorem settle {links : Nat} {seat : List String}
    (found : Disk.settle old.tree links seat = .ok place) :
    Disk.settle new.tree links seat = .ok place := by
  induction links generalizing seat with
  | zero =>
    rw [Disk.settle] at found
    split at found
    · cases found
    · next stays =>
      cases found
      exact settle_of_stays fun target isLink => stays target (grows.isLink_iff.1 isLink)
  | succ links ih =>
    rw [Disk.settle] at found
    split at found
    · next target isLink =>
      obtain ⟨next, there, found⟩ := bind_eq_ok_iff.1 found
      rw [Disk.settle, grows.isLink_iff.2 isLink]
      exact bind_eq_ok_iff.2 ⟨next, grows.slotOf there, ih found⟩
    · next stays =>
      cases found
      exact settle_of_stays fun target isLink => stays target (grows.isLink_iff.1 isLink)

theorem opened (found : old.target path = .ok place) : new.target path = .ok place := by
  obtain ⟨seat, slot, found⟩ := bind_eq_ok_iff.1 found
  exact bind_eq_ok_iff.2 ⟨seat, grows.slot slot, grows.settle found⟩

theorem reaches (reaches : old.Reaches path place) : new.Reaches path place where
  linkless := reaches.linkless.of_links fun _ _ => grows.isLink_iff.1
  seated := by
    rw [start, grows.current]
    exact grows.dirs _ reaches.seated
  leads := grows.current ▸ reaches.leads

end Grows

/-! ## What lets a disk grow -/

/-- A name in a directory. -/
theorem exists_of_slotOf {tree : FileTree} {start before : List String}
    (found : slotOf tree start before name = .ok place) :
    ∃ above last, place = above ++ [last] ∧ tree.node? above = some .dir := by
  obtain ⟨arrival, -, found⟩ := bind_eq_ok_iff.1 found
  dsimp only at found
  split at found
  · next entries isDir =>
    split at found <;> cases found
    exact ⟨_, _, rfl, node?_eq_dir_iff.2 ⟨entries, isDir⟩⟩
  · cases found
  · cases found

theorem exists_of_slot (found : disk.slot path = .ok place) :
    ∃ above last, place = above ++ [last] ∧ disk.tree.node? above = some .dir := by
  obtain ⟨-, -, found⟩ := bind_eq_ok_iff.1 found
  split at found
  · cases found
  · obtain ⟨there, seat, found⟩ := bind_eq_ok_iff.1 found
    split at found <;> cases found
    exact exists_of_slotOf seat

theorem exists_of_settle {tree : FileTree} {links : Nat} {seat : List String}
    (parent : ∃ above last, seat = above ++ [last] ∧ tree.node? above = some .dir)
    (found : settle tree links seat = .ok place) :
    ∃ above last, place = above ++ [last] ∧ tree.node? above = some .dir := by
  induction links generalizing seat with
  | zero =>
    rw [settle] at found
    split at found <;> cases found
    exact parent
  | succ links ih =>
    rw [settle] at found
    split at found
    · obtain ⟨next, there, found⟩ := bind_eq_ok_iff.1 found
      exact ih (exists_of_slotOf there) found
    · cases found
      exact parent

/-- A file is written into a directory, where nothing is or another file. -/
theorem exists_of_write {content : Bytes} (written : disk.write path content = .ok after) :
    ∃ place held, disk.target path = .ok place ∧ after = disk.put place (.file held) ∧
      disk.Grows after := by
  obtain ⟨place, found, written⟩ := bind_eq_ok_iff.1 written
  obtain ⟨seat, slot, settled⟩ := bind_eq_ok_iff.1 found
  obtain ⟨above, last, rfl, parent⟩ := exists_of_settle (exists_of_slot slot) settled
  split at written
  · cases written
  · next old here =>
    cases written
    exact ⟨_, _, found, rfl, .put parent (linkless_file _) (.inr ⟨old, _, here, rfl⟩)⟩
  · cases written
  · next missing =>
    cases written
    exact ⟨_, _, found, rfl, .put parent (linkless_file _) (.inl missing)⟩

theorem grows_makeDir (made : disk.makeDir path = .ok after) : disk.Grows after := by
  obtain ⟨-, -, made⟩ := bind_eq_ok_iff.1 made
  split at made
  · cases made
  · obtain ⟨place, seat, made⟩ := bind_eq_ok_iff.1 made
    obtain ⟨above, last, rfl, parent⟩ := exists_of_slotOf seat
    split at made
    · cases made
    · next free =>
      cases made
      refine .put parent linkless_empty (.inl ?_)
      simp only [Bool.or_eq_true, not_or, Option.not_isSome_iff_eq_none] at free
      exact free.2

theorem grows_createUpTo {fuel : Nat} (made : createUpTo fuel disk path = .ok after) :
    disk.Grows after := by
  induction fuel generalizing disk path after with
  | zero => cases made; exact .refl disk
  | succ fuel ih =>
    rw [createUpTo] at made
    have settled {parent : Disk} {e : FileError}
        (kept : (if parent.isDir path then .ok parent else .error e) = Except.ok after) :
        parent.Grows after := by
      split at kept <;> cases kept
      exact .refl _
    dsimp only at made
    split at made
    · cases made
      exact .refl disk
    split at made
    · obtain ⟨above, parent, made⟩ := bind_eq_ok_iff.1 made
      refine (ih parent).trans ?_
      split at made
      · next made' =>
        cases made
        exact grows_makeDir made'
      · exact settled made
    · split at made
      · next made' =>
        cases made
        exact grows_makeDir made'
      · exact settled made

/-- The target is emptied first, and the content then goes where it was emptied. -/
theorem grows_copyFile (copied : disk.copyFile source target = .ok after) : disk.Grows after := by
  obtain ⟨held, -, copied⟩ := bind_eq_ok_iff.1 copied
  split at copied
  · obtain ⟨emptied, written, copied⟩ := bind_eq_ok_iff.1 copied
    obtain ⟨place, found, copied⟩ := bind_eq_ok_iff.1 copied
    obtain ⟨place', held', found', rfl, grows⟩ := exists_of_write written
    obtain rfl := Except.ok.inj (found.symm.trans (grows.opened found'))
    obtain ⟨seat, slot, settled⟩ := bind_eq_ok_iff.1 found
    obtain ⟨above, last, rfl, parent⟩ := exists_of_settle (exists_of_slot slot) settled
    cases copied
    exact grows.trans
      (.put parent (linkless_file _) (.inr ⟨held', _, get?_put_self .., rfl⟩))
  · cases copied

/-! ## Steps one after the other -/

section

variable {α : Type} {step : α → EStateM FileError Disk Unit} {todo : List α}
  (grows : ∀ item disk after, step item disk = .ok () after → disk.Grows after)

include grows

theorem grows_forM (run : todo.forM step disk = .ok () after) : disk.Grows after := by
  induction todo generalizing disk with
  | nil => cases run; exact .refl _
  | cons item todo ih =>
    rw [List.forM_eq_forM, List.forM_cons] at run
    cases first : step item disk with
    | error e made => rw [bind_of_error _ first] at run; cases run
    | ok _ made =>
      rw [bind_of_ok _ first] at run
      exact (grows item disk made first).trans (ih run)

/-- A step that fails on whatever the disk has grown to makes the whole row fail. -/
theorem forM_error {item : α} (mem : item ∈ todo)
    (fails : ∀ grown, disk.Grows grown → ∃ e after, step item grown = .error e after) :
    ∃ e after, todo.forM step disk = .error e after := by
  induction todo generalizing disk with
  | nil => cases mem
  | cons next todo ih =>
    rw [List.forM_eq_forM, List.forM_cons]
    cases first : step next disk with
    | error e made => exact ⟨e, made, bind_of_error _ first⟩
    | ok _ made =>
      rw [bind_of_ok _ first]
      obtain rfl | mem := List.mem_cons.1 mem
      · obtain ⟨e, after, error⟩ := fails _ (.refl _)
        rw [first] at error
        cases error
      · exact ih mem fun grown later => fails grown ((grows next _ made first).trans later)

end

theorem whole_eq_ok_iff {change : Disk → Except FileError Disk} :
    whole change disk = .ok () after ↔ change disk = .ok after := by
  rw [whole]
  cases change disk <;> simp

/-- By induction on the fuel. -/
theorem grows_copyOne {fuel : Nat} {tree : FileTree}
    (copied : copyOne fuel tree source target disk = .ok () after) : disk.Grows after := by
  induction fuel generalizing disk tree source target after with
  | zero =>
    rw [copyOne] at copied
    split at copied
    · cases copied
    · exact grows_copyFile (whole_eq_ok_iff.1 copied)
  | succ fuel ih =>
    rw [copyOne] at copied
    split at copied
    · rw [copyUpTo_succ] at copied
      split at copied
      · cases copied
      · next made run =>
        refine (grows_createUpTo (whole_eq_ok_iff.1 run)).trans ?_
        split at copied
        · cases copied
        · exact grows_forM (fun entry disk after copied => ih copied) copied
    · exact grows_copyFile (whole_eq_ok_iff.1 copied)

/-! ## Places inside each other -/

/-- By induction on the fuel. The directory that has just been made is among the entries that are
still to be copied, and its copy goes inside it again. -/
theorem copyUpTo_inside (fuel : Nat) {inside : List String} (nonempty : inside ≠ [])
    (proper : ∀ name ∈ inside, IsName name) (from_source : disk.Reaches source here)
    (to_target : disk.Reaches target (here ++ inside)) :
    ∃ e after, copyUpTo fuel source target disk = .error e after := by
  induction fuel generalizing disk source target here inside with
  | zero => exact ⟨_, _, rfl⟩
  | succ fuel ih =>
    rw [copyUpTo_succ]
    have root := createDirs_ends to_target
    cases run : whole (createDirs · target) disk with
    | error e after => exact ⟨e, after, rfl⟩
    | ok _ made =>
      have grows := grows_createUpTo (whole_eq_ok_iff.1 run)
      have isDir : made.tree.node? (here ++ inside) = some .dir := by
        rw [run] at root
        obtain ⟨⟨-, -, free⟩, new, rfl, rfl⟩ := root
        rw [node?, Disk.put, get?_put_self, Option.map_some, node_root to_target free]
      cases read : made.entries source with
      | error e => exact ⟨e, made, by simp only [read]⟩
      | ok entries =>
        obtain ⟨name, more, rfl⟩ := List.exists_cons_of_ne_nil nonempty
        obtain ⟨isName, proper⟩ := List.forall_mem_cons.1 proper
        have found := ((entries_eq_ok_iff (grows.reaches from_source)).1 read).2
        obtain ⟨nested, mem⟩ := exists_mem_of_isDir ((node?_below found _).symm.trans isDir)
        have deeper : here ++ name :: more ++ [name] = here ++ [name] ++ (more ++ [name]) := by
          simp
        have proper' : ∀ other ∈ more ++ [name], IsName other :=
          List.forall_mem_append.2 ⟨proper, List.forall_mem_singleton.2 isName⟩
        simp only [read]
        refine forM_error (fun _ _ _ copied => grows_copyOne copied) mem fun grown later => ?_
        have from_source := later.reaches (grows.reaches from_source)
        have to_target := later.reaches (grows.reaches to_target)
        exact ih (List.concat_ne_nil _ _) proper' (from_source.join isName)
          (deeper ▸ to_target.join isName)

/-- What is copied into itself never comes to an end. -/
theorem copyDir_inside {inside : List String} (nonempty : inside ≠ [])
    (proper : ∀ name ∈ inside, IsName name) (from_source : disk.Reaches source here)
    (to_target : disk.Reaches target (here ++ inside)) (after : Disk) :
    disk.copyDir source target ≠ .ok after := by
  obtain ⟨e, made, fails⟩ := copyUpTo_inside maxPath nonempty proper from_source to_target
  simp [copyDir, fails]

end AssetSeed.Disk
