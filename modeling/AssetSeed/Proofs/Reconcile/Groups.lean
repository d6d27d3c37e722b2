import AssetSeed.Proofs.Reconcile.Chronicle
import AssetSeed.Proofs.Reconcile.Frames
import AssetSeed.Proofs.Reconcile.Permissions
import AssetSeed.Proofs.Reconcile.Settling
import AssetSeed.Proofs.Store.Permissions

/-!
# Groups and their permissions

The first stage provides the groups, the second one their permissions. A permission is for its group
only if the group was known when the permission was created, so what one stage lacks is in what the
next one leaves behind.

## Main definitions

* `Reconcile.Provided` — what the first two stages have provided.
* `Reconcile.Outcome` — what a reconciliation comes to.

## Main statements

* `Reconcile.has_ensure` — a stage that goes through leaves all that is wanted.
* `Reconcile.outcome_run` — the outcome of a reconciliation of an orderly database.
* `Reconcile.Outcome.exists_draft` — whom a new permission is for.
-/

namespace AssetSeed

open Reconcile
open MemoryStore (respond Adds Orderly)

/-- The groups that a catalog names. -/
def Catalog.groupNames (catalog : Catalog) : List String :=
  [catalog.staffGroup, catalog.defaultGroup]

/-! ## What lasts -/

/-- Whatever is asked, records are only added, and the database stays orderly. -/
theorem Dialogue.ensures_lasting {α : Type} (d : StoreDialogue α) {store : MemoryStore}
    (orderly : Orderly store) :
    d.Ensures respond.conduct (fun _ store' => Adds store store' ∧ Orderly store') store := by
  suffices ∀ mid, Adds store mid → Orderly mid →
      d.Ensures respond.conduct (fun _ store' => Adds store store' ∧ Orderly store') mid from
    this store (.refl store) orderly
  induction d with
  | done a => exact fun _ adds orderly => ⟨adds, orderly⟩
  | ask request next ih =>
    intro mid adds orderly answer store' hc
    have effect := MemoryStore.effect_of_respond hc
    exact ih answer store' (adds.trans effect.adds) (effect.orderly orderly)

/-- What a stage ensures of an orderly database, and what it ensures anyway. -/
theorem Stage.Ensures.lasting {α : Type} {stage : Stage α} {store : MemoryStore}
    {post : Except Failure α → StageReport → MemoryStore → Prop} {report : StageReport}
    (h : stage.Ensures respond.conduct post report store) (orderly : Orderly store) :
    stage.Ensures respond.conduct (fun result report store' =>
      (Adds store store' ∧ Orderly store') ∧ post result report store') report store :=
  .and (Dialogue.ensures_lasting _ orderly) h

namespace Reconcile

variable {kind : Kind} {store : MemoryStore}

/-! ## Names that a stage provides -/

theorem ensures_readIndex_index (report : StageReport) (orderly : Orderly store) :
    (Stage.readIndex kind).Ensures respond.conduct (fun result _ store' =>
      (Adds store store' ∧ Orderly store') ∧
        ∀ index, result = .ok index → index = store'.index kind) report store := by
  refine Stage.Ensures.lasting ?_ orderly
  refine Stage.ensures_readIndex.2 fun answer store' hc => ?_
  cases answer with
  | error e => exact nofun
  | ok records =>
    intro index hindex
    cases hindex
    exact MemoryStore.index_of_list_ok hc

section Named

variable (named : kind ∈ [.group, .permission])

include named

theorem has_attempt (orderly : Orderly store) (key : String) (draft : kind.Draft)
    (report : StageReport) :
    (Stage.attempt kind key draft).Ensures respond.conduct (fun _ _ store' =>
      (Adds store store' ∧ Orderly store') ∧ store'.Has kind (kind.draftKey draft))
      report store := by
  refine Stage.Ensures.lasting ?_ orderly
  refine Stage.ensures_ask_bind.2 fun answer store' hc => ?_
  have has := (MemoryStore.effect_of_respond hc).has named orderly
  cases answer with
  | ok r => exact Stage.Keeps.noteCreated report store' has
  | error e => exact Stage.Keeps.tolerate key e report store' has

theorem has_createMissing {wanted : List (String × kind.Draft)}
    (keyed : ∀ item ∈ wanted, kind.draftKey item.2 = item.1) {existing : NameIndex}
    {attempted : List String} (orderly : Orderly store) (report : StageReport) :
    (Stage.createMissing kind existing attempted wanted).Ensures respond.conduct
      (fun result _ store' => (Adds store store' ∧ Orderly store') ∧ (result = .ok () →
        ∀ item ∈ wanted, item.1 ≠ "" →
          existing.contains item.1 ∨ item.1 ∈ attempted ∨ store'.Has kind item.1))
      report store := by
  induction wanted generalizing attempted store report with
  | nil => exact ⟨⟨.refl store, orderly⟩, by simp⟩
  | cons item rest ih =>
    obtain ⟨key, draft⟩ := item
    obtain ⟨draftKey, keyedRest⟩ := List.forall_mem_cons.1 keyed
    rw [Stage.createMissing_cons]
    split
    · next hskip =>
      refine (ih keyedRest orderly report).mono ?_
      rintro _ _ _ ⟨lasting, provided⟩
      refine ⟨lasting, fun hok => List.forall_mem_cons.2 ⟨fun nonempty => ?_, provided hok⟩⟩
      simp only [Bool.or_eq_true, String.isEmpty_iff, List.contains_iff_mem] at hskip
      obtain (hempty | hexisting) | hattempted := hskip
      · exact absurd hempty nonempty
      · exact .inl hexisting
      · exact .inr (.inl hattempted)
    · -- created or refused, the record is there, and nothing takes it away
      refine (has_attempt named orderly key draft report).bind ?_ fun _ _ _ h => ⟨h.1, by simp⟩
      rintro _ report mid ⟨⟨adds, orderly⟩, has⟩
      rw [draftKey] at has
      refine (ih keyedRest orderly report).mono ?_
      rintro _ _ _ ⟨lasting, provided⟩
      refine ⟨⟨adds.trans lasting.1, lasting.2⟩, fun hok => List.forall_mem_cons.2
        ⟨fun _ => .inr (.inr (lasting.1.has named has)), fun item hitem nonempty => ?_⟩⟩
      obtain hexisting | hattempted | has' := provided hok item hitem nonempty
      · exact .inl hexisting
      · obtain heq | hattempted := List.mem_cons.1 hattempted
        · exact .inr (.inr (heq ▸ lasting.1.has named has))
        · exact .inr (.inl hattempted)
      · exact .inr (.inr has')

/-- A stage that goes through leaves all that is wanted, and returns the index of the collection. -/
theorem has_ensure {wanted : List (String × kind.Draft)}
    (keyed : ∀ item ∈ wanted, kind.draftKey item.2 = item.1) (orderly : Orderly store)
    (report : StageReport) :
    (Stage.ensure kind fun _ => wanted).Ensures respond.conduct (fun result _ store' =>
      ∀ index, result = .ok index → index = store'.index kind ∧
        ∀ item ∈ wanted, item.1 ≠ "" → store'.Has kind item.1) report store := by
  refine (ensures_readIndex_index report orderly).bind ?_ fun _ _ _ _ index => nofun
  rintro _ report mid ⟨⟨-, orderly⟩, known⟩
  obtain rfl := known _ rfl
  refine (has_createMissing named keyed orderly report).bind ?_ fun _ _ _ _ index => nofun
  rintro _ report mid' ⟨⟨adds, orderly⟩, provided⟩
  refine (ensures_readIndex_index report orderly).mono ?_
  rintro _ _ new ⟨⟨adds', -⟩, known⟩ index hindex
  refine ⟨known index hindex, fun item hitem nonempty => adds'.has named ?_⟩
  obtain hexisting | hattempted | has := provided rfl item hitem nonempty
  · exact adds.has named (MemoryStore.contains_index.1 hexisting)
  · cases hattempted
  · exact has

end Named

/-! ## What the first two stages provide -/

theorem exists_get?_index {key : String} (h : store.Has kind key) :
    ∃ r ∈ store.records kind, kind.key? r = some key ∧
      (store.index kind).get? key = some (kind.id r) := by
  obtain ⟨id, hid⟩ := Index.exists_get?_of_contains (MemoryStore.contains_index.2 h)
  obtain ⟨r, ⟨hkey, before, after, hrecords, -⟩, rfl⟩ :=
    Stage.mem_entries_keyPairs.1 (Index.get?_eq_some_iff.1 hid)
  exact ⟨r, by simp [hrecords], hkey, hid⟩

/-- The groups of the catalog are there, and the index tells their identifiers. -/
def Grouped (catalog : Catalog) (groups : NameIndex) (store : MemoryStore) : Prop :=
  ∀ name ∈ catalog.groupNames, ∃ r ∈ store.groups, r.name = name ∧ groups.get? name = some r.id

theorem Grouped.mono {catalog : Catalog} {groups : NameIndex} {store' : MemoryStore}
    (h : Grouped catalog groups store) (adds : Adds store store') :
    Grouped catalog groups store' := by
  intro name hname
  obtain ⟨r, hr, found⟩ := h name hname
  exact ⟨r, adds.groups.subset hr, found⟩

/-- The drafts of permissions that were not there before are for the groups of the catalog, as far
as the index tells them. -/
def GrantsBy (catalog : Catalog) (groups : NameIndex) (before : List Draft.Permission)
    (store : MemoryStore) : Prop :=
  ∀ draft ∈ store.permissionDrafts, draft ∈ before ∨ ∃ name ∈ catalog.groupNames,
    draft.name = PermissionSpec.nameFor name ∧ draft.groups = (groups.get? name).toList

/-- What the first two stages have provided: the groups, their permissions and the drafts of these.
A stage that was aborted has provided nothing that could be relied on. -/
structure Provided (catalog : Catalog) (before : List Draft.Permission)
    (group permission : StageReport) (groups : NameIndex) (store : MemoryStore) : Prop where
  grouped : group.aborted.isSome ∨ Grouped catalog groups store
  permissions : permission.aborted.isSome ∨
    ∀ name ∈ catalog.groupNames, store.Has .permission (PermissionSpec.nameFor name)
  drafts : GrantsBy catalog groups before store

section Stages

variable {catalog : Catalog} {groups : NameIndex} {before : List Draft.Permission}
  {group permission : StageReport}

theorem grouped_ensureGroups (nonempty : ∀ name ∈ catalog.groupNames, name ≠ "")
    (orderly : Orderly store) (report : StageReport) :
    (ensureGroups catalog).Ensures respond.conduct (fun result _ store' =>
      ∀ groups, result = .ok groups → Grouped catalog groups store') report store := by
  have keyed : ∀ item ∈ catalog.groupNames.map fun name => (name, ({ name } : Draft.Group)),
      Kind.group.draftKey item.2 = item.1 := by
    simp [Kind.draftKey]
  have named : Kind.group ∈ [.group, .permission] := by simp
  refine (has_ensure named keyed orderly report).mono ?_
  rintro _ _ store' provided groups hgroups name hname
  obtain ⟨rfl, has⟩ := provided groups hgroups
  obtain ⟨r, hr, hkey, hid⟩ := exists_get?_index
    (has (name, { name }) (List.mem_map_of_mem hname) (nonempty name hname))
  exact ⟨r, hr, Option.some.inj hkey, hid⟩

theorem has_ensurePermissions (orderly : Orderly store) (report : StageReport) :
    (ensurePermissions catalog groups).Ensures respond.conduct (fun result _ store' =>
      result.isOk → ∀ name ∈ catalog.groupNames,
        store'.Has .permission (PermissionSpec.nameFor name)) report store := by
  refine Stage.ensures_bind.2 (Stage.ensures_demand.2 fun answer mid hc => ?_)
  cases answer with
  | error e => exact nofun
  | ok types =>
    have orderly := (MemoryStore.effect_of_respond hc).orderly orderly
    have named : Kind.permission ∈ [.group, .permission] := by simp
    have keyed : ∀ item ∈ wantedPermissions catalog groups (types.map (·.qualifiedName)),
        Kind.permission.draftKey item.2 = item.1 := by
      simp [wantedPermissions_eq, Kind.draftKey, PermissionSpec.grant]
    refine (has_ensure named keyed orderly report).mono ?_
    intro result _ store' provided hok name hname
    cases result with
    | error failure => cases hok
    | ok index =>
      have wanted : ∃ item ∈ wantedPermissions catalog groups (types.map (·.qualifiedName)),
          item.1 = PermissionSpec.nameFor name := by
        simp only [Catalog.groupNames, List.mem_cons, List.not_mem_nil, or_false] at hname
        obtain rfl | rfl := hname <;> simp [wantedPermissions_eq]
      obtain ⟨item, hitem, key⟩ := wanted
      rw [← key]
      exact (provided index rfl).2 item hitem (key ▸ PermissionSpec.nameFor_ne_empty name)

theorem grantsBy_preserves {request : StoreRequest}
    (granted : ∀ draft, request = .create .permission draft → ∃ name ∈ catalog.groupNames,
      draft.name = PermissionSpec.nameFor name ∧ draft.groups = (groups.get? name).toList) :
    respond.conduct.Preserves (GrantsBy catalog groups before) request := by
  intro store answer store' grants hc draft hdraft
  have effect := MemoryStore.effect_of_respond hc
  obtain hdraft | heq := effect.mem_drafts hdraft
  · exact grants draft hdraft
  · exact .inr (granted draft heq)

theorem grantsBy_spares :
    respond.conduct.Spares .permission (GrantsBy catalog groups before) := by
  intro request ne
  refine grantsBy_preserves fun draft heq => ?_
  simp [heq, StoreRequest.creates?] at ne

theorem grantsBy_ensurePermissions :
    (ensurePermissions catalog groups).Keeps respond.conduct (GrantsBy catalog groups before) := by
  refine (Stage.Keeps.demand (grantsBy_preserves fun _ heq => by cases heq)).bind fun types => ?_
  refine .ensure_wanted (grantsBy_preserves fun _ heq => by cases heq) fun _ item hitem => ?_
  refine grantsBy_preserves fun draft heq => ?_
  cases heq
  rw [wantedPermissions_eq, List.mem_cons, List.mem_singleton] at hitem
  obtain rfl | rfl := hitem
  · exact ⟨catalog.staffGroup, by simp [Catalog.groupNames], rfl, rfl⟩
  · exact ⟨catalog.defaultGroup, by simp [Catalog.groupNames], rfl, rfl⟩

theorem Provided.spares :
    respond.conduct.Spares .permission (Provided catalog before group permission groups) := by
  intro request ne store answer store' provided hc
  have effect := MemoryStore.effect_of_respond hc
  constructor
  case grouped =>
    exact provided.grouped.imp_right (·.mono effect.adds)
  case permissions =>
    refine provided.permissions.imp_right fun has name hname => ?_
    exact effect.adds.has (by simp) (has name hname)
  case drafts =>
    exact grantsBy_spares request ne store answer store' provided.drafts hc

end Stages

/-! ## One reconciliation -/

section Run

variable {catalog : Catalog} (nonempty : ∀ name ∈ catalog.groupNames, name ≠ "")

include nonempty

theorem grouped_conclude (orderly : Orderly store) :
    ((ensureGroups catalog).conclude .group).Ensures respond.conduct (fun result store' =>
      Orderly store' ∧ (∀ groups, GrantsBy catalog groups store.permissionDrafts store') ∧
        (result.1.aborted.isSome ∨ Grouped catalog result.2 store')) store := by
  -- which groups there will be is not known yet, so whatever they are
  have spared : respond.conduct.Spares .permission fun store' =>
      ∀ groups, GrantsBy catalog groups store.permissionDrafts store' :=
    fun request ne s answer s' h hc groups =>
      grantsBy_spares request ne s answer s' (h groups) hc
  have grants : (ensureGroups catalog).Keeps respond.conduct fun store' =>
      ∀ groups, GrantsBy catalog groups store.permissionDrafts store' :=
    .ensure (spared.list .group) (spared.create nofun)
  refine ((grants _ store fun _ _ => .inl).and
    ((grouped_ensureGroups nonempty orderly _).lasting orderly)).conclude ?_ ?_
  · rintro groups report mid ⟨grants, ⟨-, orderly⟩, grouped⟩
    exact ⟨orderly, grants, .inr (grouped groups rfl)⟩
  · rintro failure report mid ⟨grants, ⟨-, orderly⟩, -⟩
    exact ⟨orderly, grants, .inl rfl⟩

omit nonempty in
theorem provided_conclude {before : List Draft.Permission} {group : StageReport}
    {groups : NameIndex} (orderly : Orderly store)
    (grants : GrantsBy catalog groups before store)
    (grouped : group.aborted.isSome ∨ Grouped catalog groups store) :
    ((ensurePermissions catalog groups).conclude .permission).Ensures respond.conduct
      (fun result => Provided catalog before group result.1 groups) store := by
  refine ((grantsBy_ensurePermissions _ store grants).and
    ((has_ensurePermissions orderly _).lasting orderly)).conclude ?_ ?_
  · rintro permissions report new ⟨grants, ⟨adds, -⟩, has⟩
    exact ⟨grouped.imp_right (·.mono adds), .inr (has rfl), grants⟩
  · rintro failure report new ⟨grants, ⟨adds, -⟩, -⟩
    exact ⟨grouped.imp_right (·.mono adds), .inl rfl, grants⟩

theorem provided_runCatalog (palette : Palette) (orderly : Orderly store) :
    (runCatalog catalog palette).Ensures respond.conduct (fun result store' =>
      ∃ group permission rest, result.1 = group :: permission :: rest ∧
        Provided catalog store.permissionDrafts group permission result.2.groups store') store := by
  refine (grouped_conclude nonempty orderly).bind ?_
  rintro ⟨group, groups⟩ mid ⟨orderly, grants, grouped⟩
  refine (provided_conclude orderly (grants groups) grouped).bind ?_
  rintro ⟨permission, permissions⟩ mid provided
  have ensured (kind : Kind) (wanted : NameIndex → List (String × kind.Draft))
      (ne : kind ≠ .permission) : (Stage.ensure kind wanted).Keeps respond.conduct
        (Provided catalog store.permissionDrafts group permission groups) :=
    .ensure (Provided.spares.list kind) (Provided.spares.create ne)
  refine ((ensured .manufacturer _ nofun).conclude .manufacturer provided).bind
    fun _ _ provided => ?_
  refine ((ensured .role _ nofun).conclude .role provided).bind fun _ _ provided => ?_
  refine ((ensured .deviceType _ nofun).conclude .deviceType provided).bind fun _ _ provided => ?_
  refine ((ensured .site _ nofun).conclude .site provided).bind fun _ _ provided => ?_
  exact ⟨group, permission, _, rfl, provided⟩

/-- What the first two stages have provided stays, whatever the others do. -/
theorem provided_run (source? : Option MapSource) (palette : Palette) (orderly : Orderly store) :
    (run catalog source? palette).Ensures respond.conduct (fun report store' =>
      ∃ group permission rest, report.stages = group :: permission :: rest ∧
        Provided catalog store.permissionDrafts group permission report.inventory.groups store')
      store := by
  refine (provided_runCatalog nonempty palette orderly).bind ?_
  rintro ⟨_, inventory⟩ mid ⟨group, permission, rest, rfl, provided⟩
  have spared : respond.conduct.Spares .permission
      (Provided catalog store.permissionDrafts group permission inventory.groups) := Provided.spares
  have devices (hosts : List Host) (inventory : Inventory) :=
    keeps_ensureDevices (spared.list .device) (fun _ _ =>
      keeps_createDevice (spared (.create .device _) nofun) (spared.create nofun)) hosts inventory
  have mapped (source : MapSource) := keeps_networkMapStage spared nofun
    (fun _ _ => .ensure (spared.list .ipPrefix) (spared.create nofun)) devices source inventory
  refine (ensures_runNetworkMap mapped source? provided).bind fun reports _ provided => ?_
  refine ((keeps_backfill spared).conclude .prefixDescription provided).bind fun _ _ provided => ?_
  exact ⟨group, permission, _, rfl, provided⟩

/-- What a reconciliation comes to, as far as groups and their permissions go. -/
structure Outcome (catalog : Catalog) (store : MemoryStore) (report : Report)
    (store' : MemoryStore) : Prop where
  adds : Adds store store'
  orderly : Orderly store'
  ungrouped : .group ∈ report.abortedStages → report.inventory.groups = .empty
  grouped : .group ∉ report.abortedStages → Grouped catalog report.inventory.groups store'
  permissions : .permission ∉ report.abortedStages →
    ∀ name ∈ catalog.groupNames, store'.Has .permission (PermissionSpec.nameFor name)
  drafts : GrantsBy catalog report.inventory.groups store.permissionDrafts store'

theorem outcome_run (source? : Option MapSource) (palette : Palette) (orderly : Orderly store) :
    Outcome catalog store ((run catalog source? palette).run respond store).1
      ((run catalog source? palette).run respond store).2 := by
  obtain ⟨adds, orderly'⟩ := (Dialogue.ensures_lasting (run catalog source? palette) orderly).run
  obtain ⟨group, permission, rest, hstages, provided⟩ :=
    (provided_run nonempty source? palette orderly).run
  have recorded := recorded_run respond store catalog source? palette
  have course := recorded.stages
  rw [hstages] at course
  simp only [StageName.course, List.map_cons, List.cons_append, List.cons.injEq] at course
  obtain ⟨hgroup, hpermission, -⟩ := course
  refine ⟨adds, orderly', fun aborted => ?_, fun unaborted => ?_, fun unaborted => ?_,
    provided.drafts⟩
  · obtain ⟨stage, hstage, aborted, hname⟩ := Report.mem_abortedStages.1 aborted
    exact recorded.empty stage hstage aborted _ (by rw [hname]; rfl)
  · refine provided.grouped.resolve_left fun aborted => unaborted ?_
    exact Report.mem_abortedStages.2 ⟨group, by simp [hstages], aborted, hgroup⟩
  · refine provided.permissions.resolve_left fun aborted => unaborted ?_
    exact Report.mem_abortedStages.2 ⟨permission, by simp [hstages], aborted, hpermission⟩

end Run

/-- A permission that was not there before is for its group, as far as the index tells it. -/
theorem Outcome.exists_draft {catalog : Catalog} {report : Report} {store' : MemoryStore}
    (outcome : Outcome catalog store report store') (orderly : Orderly store) {name : String}
    (absent : ¬store.Has .permission (PermissionSpec.nameFor name))
    (has : store'.Has .permission (PermissionSpec.nameFor name)) :
    ∃ draft ∈ store'.permissionDrafts, draft.name = PermissionSpec.nameFor name ∧
      draft.groups = (report.inventory.groups.get? name).toList := by
  obtain ⟨draft, hdraft, hname⟩ := outcome.orderly.has_permission_iff.1 has
  refine ⟨draft, hdraft, hname, ?_⟩
  obtain before | ⟨other, -, hother, groups⟩ := outcome.drafts draft hdraft
  · exact absurd (orderly.has_permission_iff.2 ⟨draft, before, hname⟩) absent
  · obtain rfl := PermissionSpec.nameFor_inj.1 (hname.symm.trans hother)
    exact groups

end Reconcile

end AssetSeed
