import AssetSeed.Proofs.Reconcile.Groups
import AssetSeed.Proofs.Reconcile.MapIdempotence

/-!
# Attempts at a catalog

One catalog is reconciled again and again, and listings may fail each time for a while. The attempt
that creates a permission decides for good whom it is for: later ones find it there and leave it as
it is.

## Main definitions

* `Reconcile.Attempt` — a reconciliation, and what fails before it succeeds.
* `Reconcile.history` — all attempts, with what each one reported and left behind.

## Main statements

* `Reconcile.outcome_mem_history` — the outcome of each attempt.
* `Reconcile.exists_granting` — one attempt creates the permission of a group.
* `Reconcile.history_grants` — whom a permission is for after a clean attempt.
-/

namespace AssetSeed.Reconcile

open MemoryStore (respond Adds Orderly)
open PermissionSpec (nameFor)

/-- A reconciliation before which some listings are set to fail a number of times. -/
structure Attempt where
  outages : List (Kind × Nat) := []
  source? : Option MapSource := none
  palette : Palette := default

namespace Attempt

def prepare (attempt : Attempt) (store : MemoryStore) : MemoryStore :=
  attempt.outages.foldl (fun store outage => store.setOutage outage.1 (.times outage.2)) store

def run (attempt : Attempt) (catalog : Catalog) (store : MemoryStore) : Report × MemoryStore :=
  (Reconcile.run catalog attempt.source? attempt.palette).run respond (attempt.prepare store)

theorem exists_prepare (attempt : Attempt) (store : MemoryStore) :
    ∃ outages, attempt.prepare store = { store with outages } := by
  obtain ⟨outages, source?, palette⟩ := attempt
  induction outages generalizing store with
  | nil => exact ⟨store.outages, rfl⟩
  | cons outage rest ih => exact ih (store.setOutage outage.1 (.times outage.2))

end Attempt

/-- What each attempt reports and leaves behind. -/
def history (catalog : Catalog) : List Attempt → MemoryStore → List (Report × MemoryStore)
  | [], _ => []
  | attempt :: rest, store =>
    attempt.run catalog store :: history catalog rest (attempt.run catalog store).2

/-- The group is there once, and so is its permission, which one of the attempts created. From then
on it is for the group, or for nobody if the stage of the groups ended early in that attempt. -/
def Granted (name : String) (results : List (Report × MemoryStore)) (last : MemoryStore) : Prop :=
  ∃ group permission earlier granting later,
    last.groups.filter (·.name = name) = [group] ∧
    last.permissions.filter (·.name = nameFor name) = [permission] ∧
    results = earlier ++ granting :: later ∧
    (∀ result ∈ earlier, ¬result.2.Has .permission (nameFor name)) ∧
    ∀ result ∈ granting :: later, result.2.grantsOf (nameFor name) =
      [if .group ∈ granting.1.abortedStages then [] else [group.id]]

variable {catalog : Catalog} {store : MemoryStore}

/-! ## The outcome of attempts -/

theorem orderly_ofObjectTypes (types : List String) : Orderly (.ofObjectTypes types) := by
  suffices ∀ store : MemoryStore, Orderly store →
      Orderly (types.foldl MemoryStore.addObjectType store) from
    this {} ⟨List.nodup_nil, List.nodup_nil, rfl, rfl⟩
  induction types with
  | nil => exact fun store h => h
  | cons type rest ih =>
    exact fun store h => ih _ ⟨h.groups, h.permissions, h.drafts, h.unrefused⟩

theorem not_has_ofObjectTypes (types : List String) (name : String) :
    ¬(MemoryStore.ofObjectTypes types).Has .permission name := by
  suffices ∀ store : MemoryStore, ¬store.Has .permission name →
      ¬(types.foldl MemoryStore.addObjectType store).Has .permission name from
    this {} fun ⟨_, mem, _⟩ => nomatch mem
  induction types with
  | nil => exact fun store h => h
  | cons type rest ih => exact fun store h => ih _ h

variable (nonempty : ∀ name ∈ catalog.groupNames, name ≠ "")

include nonempty

theorem outcome_attempt (attempt : Attempt) (orderly : Orderly store) :
    Outcome catalog store (attempt.run catalog store).1 (attempt.run catalog store).2 := by
  obtain ⟨outages, prepared⟩ := attempt.exists_prepare store
  have adds : Adds store { store with outages } :=
    ⟨fun kind _ _ => by cases kind <;> exact List.prefix_rfl, List.prefix_rfl⟩
  have outcome := outcome_run nonempty attempt.source? attempt.palette
    (show Orderly { store with outages } from
      ⟨orderly.groups, orderly.permissions, orderly.drafts, orderly.unrefused⟩)
  rw [Attempt.run, prepared]
  exact { outcome with adds := adds.trans outcome.adds }

/-- Each attempt has its outcome, from a database that has only been added to. -/
theorem outcome_mem_history {attempts : List Attempt} (orderly : Orderly store) :
    ∀ result ∈ history catalog attempts store, ∃ before, Adds store before ∧
      Outcome catalog before result.1 result.2 := by
  induction attempts generalizing store with
  | nil => simp [history]
  | cons attempt rest ih =>
    have outcome := outcome_attempt nonempty attempt orderly
    refine List.forall_mem_cons.2 ⟨⟨store, .refl store, outcome⟩, fun result hresult => ?_⟩
    obtain ⟨before, adds, later⟩ := ih outcome.orderly result hresult
    exact ⟨before, outcome.adds.trans adds, later⟩

theorem adds_mem_history {attempts : List Attempt} (orderly : Orderly store) :
    ∀ result ∈ history catalog attempts store, Adds store result.2 ∧ Orderly result.2 := by
  intro result hresult
  obtain ⟨before, adds, outcome⟩ := outcome_mem_history nonempty orderly result hresult
  exact ⟨adds.trans outcome.adds, outcome.orderly⟩

/-! ## The attempt that grants -/

/-- A new permission is for its group, or for nobody if the stage of the groups ended early. -/
theorem grantsOf_attempt {name : String} (hname : name ∈ catalog.groupNames) {attempt : Attempt}
    (orderly : Orderly store) (absent : ¬store.Has .permission (nameFor name))
    (has : (attempt.run catalog store).2.Has .permission (nameFor name)) {last : MemoryStore}
    (adds : Adds (attempt.run catalog store).2 last) (orderlyLast : Orderly last)
    {group : Record.Group} (mem : group ∈ last.groups) (hgroup : group.name = name) :
    (attempt.run catalog store).2.grantsOf (nameFor name) =
      [if .group ∈ (attempt.run catalog store).1.abortedStages then [] else [group.id]] := by
  have outcome := outcome_attempt nonempty attempt orderly
  obtain ⟨draft, hdraft, hdraftName, groups⟩ := outcome.exists_draft orderly absent has
  rw [← hdraftName, outcome.orderly.grantsOf_eq hdraft, groups]
  split
  · next aborted =>
    rw [outcome.ungrouped aborted]
    rfl
  · next unaborted =>
    obtain ⟨r, hr, hrName, found⟩ := outcome.grouped unaborted name hname
    obtain rfl := List.inj_on_of_nodup_map orderlyLast.groups (adds.groups.subset hr) mem
      (hrName.trans hgroup.symm)
    rw [found, Option.toList_some]

/-- Among attempts of which the last one is clean, there is one that creates the permission of a
group. Before it there is none, and from it on the permission is for the same groups. -/
theorem exists_granting {name : String} (hname : name ∈ catalog.groupNames)
    {attempts : List Attempt} (orderly : Orderly store)
    (absent : ¬store.Has .permission (nameFor name)) {last : Report × MemoryStore}
    (hlast : (history catalog attempts store).getLast? = some last)
    (clean : last.1.abortedStages = []) {group : Record.Group} (mem : group ∈ last.2.groups)
    (hgroup : group.name = name) :
    ∃ earlier granting later, history catalog attempts store = earlier ++ granting :: later ∧
      (∀ result ∈ earlier, ¬result.2.Has .permission (nameFor name)) ∧
      ∀ result ∈ granting :: later, result.2.grantsOf (nameFor name) =
        [if .group ∈ granting.1.abortedStages then [] else [group.id]] := by
  induction attempts generalizing store with
  | nil => cases hlast
  | cons attempt rest ih =>
    have outcome := outcome_attempt nonempty attempt orderly
    have lasting : ∀ result ∈ history catalog (attempt :: rest) store,
        Adds (attempt.run catalog store).2 result.2 ∧ Orderly result.2 :=
      List.forall_mem_cons.2 ⟨⟨.refl _, outcome.orderly⟩, adds_mem_history nonempty outcome.orderly⟩
    by_cases has : (attempt.run catalog store).2.Has .permission (nameFor name)
    · have lastAdds := lasting last (List.mem_of_getLast? hlast)
      refine ⟨[], attempt.run catalog store, history catalog rest _, rfl, by simp, ?_⟩
      intro result hresult
      obtain ⟨adds, orderly'⟩ := lasting result hresult
      rw [adds.grantsOf_eq outcome.orderly orderly' has]
      exact grantsOf_attempt nonempty hname orderly absent has lastAdds.1 lastAdds.2 mem hgroup
    · -- this attempt was not clean, so it was not the last one
      rw [history, List.getLast?_cons] at hlast
      cases hrest : (history catalog rest (attempt.run catalog store).2).getLast? with
      | none =>
        obtain rfl : attempt.run catalog store = last := by simpa [hrest] using hlast
        exact absurd (outcome.permissions (by simp [clean]) name hname) has
      | some last' =>
        obtain rfl : last' = last := by simpa [hrest] using hlast
        obtain ⟨earlier, granting, later, heq, before, after⟩ := ih outcome.orderly has hrest
        exact ⟨_ :: earlier, granting, later, congrArg _ heq, List.forall_mem_cons.2 ⟨has, before⟩,
          after⟩

/-- However many attempts failed, after a clean one every group of the catalog has its permission.
The attempt that created it decided whom it is for, and no later one mends that. -/
theorem history_grants (types : List String) (attempts : List Attempt)
    {last : Report × MemoryStore}
    (hlast : (history catalog attempts (.ofObjectTypes types)).getLast? = some last)
    (clean : last.1.abortedStages = []) :
    ∀ name ∈ catalog.groupNames,
      Granted name (history catalog attempts (.ofObjectTypes types)) last.2 := by
  intro name hname
  have orderly := orderly_ofObjectTypes types
  obtain ⟨_, -, outcome⟩ :=
    outcome_mem_history nonempty orderly last (List.mem_of_getLast? hlast)
  obtain ⟨group, mem, hgroup, -⟩ := outcome.grouped (by simp [clean]) name hname
  obtain ⟨permission, mem', hpermission⟩ := outcome.permissions (by simp [clean]) name hname
  obtain ⟨earlier, granting, later, heq, before, after⟩ := exists_granting nonempty hname orderly
    (not_has_ofObjectTypes types _) hlast clean mem hgroup
  refine ⟨group, permission, earlier, granting, later, ?_, ?_, heq, before, after⟩
  · rw [← hgroup]
    exact MemoryStore.filter_eq_singleton outcome.orderly.groups mem
  · rw [← Option.some.inj hpermission]
    exact MemoryStore.filter_eq_singleton outcome.orderly.permissions mem'

omit nonempty

/-- Permissions cannot be listed at first, and then they can. -/
def interrupted : List Attempt :=
  [{ outages := [(.permission, 1)] }, {}]

theorem history_grants_interrupted : (∀ name ∈ twoGroups.groupNames, name ≠ "") ∧
    ∃ last, (history twoGroups interrupted (.ofObjectTypes ["dcim.site"])).getLast? = some last ∧
      last.1.abortedStages = [] ∧ ∀ name ∈ twoGroups.groupNames,
        Granted name (history twoGroups interrupted (.ofObjectTypes ["dcim.site"])) last.2 := by
  have nonempty : ∀ name ∈ twoGroups.groupNames, name ≠ "" := by decide
  have clean : (((interrupted.getLastD {}).run twoGroups
      ((interrupted.headD {}).run twoGroups (.ofObjectTypes ["dcim.site"])).2).1.abortedStages) =
      [] := by
    decide +kernel
  exact ⟨nonempty, _, rfl, clean, history_grants nonempty ["dcim.site"] interrupted rfl clean⟩

/-- Groups cannot be listed at first, so nobody is granted anything, although the next attempt is
clean. -/
theorem history_grants_nobody :
    ∃ last, (history twoGroups [{ outages := [(.group, 1)] }, {}] (.ofObjectTypes [])).getLast? =
        some last ∧
      last.1.abortedStages = [] ∧ (∀ stage ∈ last.1.stages, stage.rejections = []) ∧
      ∀ name ∈ twoGroups.groupNames, (∃ group ∈ last.2.groups, group.name = name) ∧
        last.2.grantsOf (nameFor name) = [[]] :=
  ⟨_, rfl, by decide +kernel, by decide +kernel, by decide +kernel⟩

end AssetSeed.Reconcile
