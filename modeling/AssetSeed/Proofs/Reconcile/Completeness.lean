import AssetSeed.Proofs.Reconcile.Fillers
import AssetSeed.Proofs.Stage.Standing
import AssetSeed.Proofs.Store.Permissions

/-!
# Nothing is dropped

Whatever is set to fail or to be refused, a stage of the catalog that is not aborted leaves each key
that was requested in one of two places: in the index that it returns, or among its rejections.

## Main definitions

* `Catalog.requested` — the keys that a catalog requests.
* `Complete` — each key is in one of the two places, and the index holds what the database holds.
* `Progress` — the stages so far have decided their keys, and later ones have not begun.
* `Reconcile.Undropped` — a stage has dropped nothing unless it was aborted.

## Main statements

* `Reconcile.Decides.conclude` — a stage decides its keys and leaves the decided ones alone.
* `Reconcile.reconcile_complete` — a reconciliation drops nothing.
-/

namespace AssetSeed

open Reconcile
open MemoryStore (respond)

/-- The keys that a catalog requests of a kind. -/
def Catalog.requested (catalog : Catalog) : Kind → List String
  | .group => [catalog.staffGroup, catalog.defaultGroup]
  | .permission =>
    [PermissionSpec.nameFor catalog.staffGroup, PermissionSpec.nameFor catalog.defaultGroup]
  | .manufacturer => catalog.manufacturers
  | .role => catalog.roles
  | .deviceType => catalog.deviceTypes
  | .site => catalog.sites
  | _ => []

/-- What a stage has left of the keys that were requested of it. -/
structure Complete (kind : Kind) (keys : List String) (stage : StageReport) (index : NameIndex)
    (store : MemoryStore) (said : Transcript) : Prop where
  /-- The index has no key that is not the key of a record, with the identifier of such a record. -/
  named : ∀ key id, index.get? key = some id →
    ∃ r ∈ store.records kind, kind.key? r = some key ∧ kind.id r = id
  /-- A key is in the index and not among the rejections, or it is not in the index, was asked for
  once in vain, and is among the rejections once. -/
  placed : ∀ key ∈ keys, key ≠ "" →
    ((∃ id, index.get? key = some id) ∧ stage.notes key = []) ∨
    (index.get? key = none ∧ ∃ draft e,
      said.tries kind key = [⟨.create kind draft, .error e⟩] ∧ stage.notes key = [⟨key, e⟩])

theorem complete_of_decided {kind : Kind} {keys : List String} {stage : StageReport}
    {state : MemoryStore × Transcript}
    (decided : ∀ key ∈ keys, key ≠ "" → (standing kind key state stage).Decided kind key) :
    Complete kind keys stage (state.1.index kind) state.1 state.2 where
  named key id found := by
    obtain ⟨r, ⟨hkey, before, after, records, -⟩, hid⟩ :=
      Stage.mem_entries_keyPairs.1 (Index.get?_eq_some_iff.1 found)
    exact ⟨r, by simp [records], hkey, hid⟩
  placed key mem nonempty := by
    have decided := decided key mem nonempty
    generalize stands : standing kind key state stage = stood at decided
    cases decided with
    | placed tries =>
      obtain ⟨present, -, unnoted⟩ := Standing.mk.inj stands
      exact .inl ⟨Index.exists_get?_of_contains present, unnoted⟩
    | refused draft e =>
      obtain ⟨absent, tried, noted⟩ := Standing.mk.inj stands
      refine .inr ⟨?_, draft, e, tried, noted⟩
      cases found : (state.1.index kind).get? key with
      | none => rfl
      | some id => simp [Index.contains_of_get? found] at absent

/-! ## Stage after stage -/

/-- The stages that have returned what is known have decided their keys, and nothing has been asked
for that belongs to later ones. -/
structure Progress (catalog : Catalog) (knowns : List Knowledge) (later : List Kind)
    (state : MemoryStore × Transcript) : Prop where
  decided : ∀ known ∈ knowns, known.report.aborted = none →
    known.index = state.1.index known.kind ∧ ∀ key ∈ catalog.requested known.kind, key ≠ "" →
      (standing known.kind key state known.report).Decided known.kind key
  untried : ∀ kind ∈ later, ∀ key, state.2.tries kind key = []

/-- What is said in a stage is no matter to the kinds of other stages. -/
def Kind.Apart (name : StageName) (kind : Kind) : Prop :=
  name ≠ kind.stage ∧ kind ≠ .ipPrefix

instance (name : StageName) (kind : Kind) : Decidable (Kind.Apart name kind) :=
  inferInstanceAs (Decidable (_ ∧ _))

variable {catalog : Catalog} {knowns : List Knowledge} {later : List Kind} {kind : Kind}
  {state : MemoryStore × Transcript}

/-- What is said in a stage leaves the keys of other stages as they are. -/
theorem Progress.preserves {name : StageName} (known : ∀ known ∈ knowns, known.kind.Apart name)
    (unasked : ∀ kind ∈ later, kind.Apart name) {request : StoreRequest}
    (here : request.stage = name) :
    respond.overheard.Preserves (Progress catalog knowns later) request := by
  intro state answer state' progress h
  constructor
  case decided =>
    intro known' mem unaborted
    obtain ⟨ne, unshared⟩ := known known' mem
    obtain ⟨hindex, decided⟩ := progress.decided known' mem unaborted
    refine ⟨?_, fun key hkey nonempty => ?_⟩
    · rw [hindex, MemoryStore.index_of_stage_ne h.1 (here ▸ ne) unshared]
    · rw [standing_of_stage_ne h (here ▸ ne) unshared]
      exact decided key hkey nonempty
  case untried =>
    intro kind mem key
    obtain ⟨ne, unshared⟩ := unasked kind mem
    have same : standing kind key state' { stage := name } =
        standing kind key state { stage := name } := standing_of_stage_ne h (here ▸ ne) unshared _
    exact (Standing.mk.inj same).2.1.trans (progress.untried kind mem key)

/-- A stage keeps what is said of the keys of other stages. -/
theorem Progress.conclude {α : Type} [Inhabited α] {stage : Stage α} {name : StageName}
    (progress : Progress catalog knowns later state)
    (belongs : (stage.conclude name).Ensures Conduct.recorded
      (fun _ said => ∀ e ∈ (said : Transcript), e.question.stage = name) [])
    (known : ∀ known ∈ knowns, known.kind.Apart name) (unasked : ∀ kind ∈ later, kind.Apart name) :
    (stage.conclude name).Ensures respond.overheard
      (fun _ state => Progress catalog knowns later state) state := by
  have answer (request : StoreRequest) : StoreProtocol.Answer request := .error default
  exact .of_asked answer belongs (fun _ here => Progress.preserves known unasked here) progress

namespace Reconcile

/-- The stage decides the keys that are requested of it. -/
def Decides (catalog : Catalog) (kind : Kind) (stage : Stage NameIndex) : Prop :=
  ∀ state : MemoryStore × Transcript, (∀ key, state.2.tries kind key = []) →
    stage.Ensures respond.overheard (fun result report state => ∀ index, result = .ok index →
      index = state.1.index kind ∧ ∀ key ∈ catalog.requested kind, key ≠ "" →
        (standing kind key state report).Decided kind key) { stage := kind.stage } state

theorem decides_ensure {wanted : NameIndex → List (String × kind.Draft)}
    (drafted : Stage.Drafted kind wanted)
    (covered : ∀ key ∈ catalog.requested kind, ∀ existing : NameIndex,
      existing.contains key = true ∨ key ∈ (wanted existing).map Prod.fst) :
    Decides catalog kind (Stage.ensure kind wanted) := by
  intro state untried
  have decided : (Stage.ensure kind wanted).Ensures respond.overheard
      (fun result report state => ∀ key : {key // key ∈ catalog.requested kind ∧ key ≠ ""},
        ∀ index, result = .ok index → (standing kind key state report).Decided kind key)
      { stage := kind.stage } state :=
    Dialogue.Ensures.all fun ⟨key, mem, nonempty⟩ =>
      Stage.decided_ensure drafted (covered key mem) nonempty (untried key) rfl
  refine ((Stage.returns_ensure wanted _ state).and decided).mono ?_
  rintro result report state' ⟨returned, decided⟩ index hindex
  exact ⟨returned index hindex, fun key mem nonempty => decided ⟨key, mem, nonempty⟩ index hindex⟩

/-- What is wanted whatever the collection holds. -/
theorem decides_ensure_map {α : Type} {items : List α} {item : α → String × kind.Draft}
    (keyed : ∀ a, kind.draftKey (item a).2 = (item a).1)
    (requested : catalog.requested kind = (items.map item).map Prod.fst) :
    Decides catalog kind (Stage.ensure kind fun _ => items.map item) := by
  have drafted : Stage.Drafted kind fun _ => items.map item := Stage.drafted_map keyed
  exact decides_ensure drafted fun _ mem _ => .inr (requested ▸ mem)

theorem decides_ensureGroups (catalog : Catalog) :
    Decides catalog .group (ensureGroups catalog) :=
  decides_ensure_map (fun _ => rfl) rfl

theorem decides_ensurePermissions (catalog : Catalog) (groups : NameIndex) :
    Decides catalog .permission (ensurePermissions catalog groups) := by
  intro state untried
  have listed : (Stage.demand (.list .objectType)).Ensures respond.overheard
      (fun _ report (state : MemoryStore × Transcript) => report = { stage := .permission } ∧
        ∀ key, state.2.tries .permission key = []) { stage := .permission } state := by
    refine Stage.ensures_demand.2 fun answer state' h => ⟨rfl, fun key => ?_⟩
    have same : standing .permission key state' { stage := .permission } =
        standing .permission key state { stage := .permission } := standing_of_list h _
    exact (Standing.mk.inj same).2.1.trans (untried key)
  refine listed.bind ?_ fun _ _ _ _ => nofun
  rintro types report state' ⟨rfl, untried'⟩
  exact decides_ensure_map (fun _ => rfl) rfl state' untried'

theorem decides_ensureManufacturers (catalog : Catalog) :
    Decides catalog .manufacturer (ensureManufacturers catalog.manufacturers) :=
  decides_ensure_map (fun _ => rfl) (by simp [Catalog.requested, Function.comp_def])

/-- Colours are drawn for all names but those that are there. -/
theorem decides_ensureRoles (catalog : Catalog) (palette : Palette) :
    Decides catalog .role (ensureRoles catalog.roles palette) := by
  refine decides_ensure (Stage.drafted_map fun _ => rfl) fun key mem existing => ?_
  cases present : existing.contains key with
  | true => exact .inl rfl
  | false =>
    have missing : key ∈ catalog.roles.filter fun name => !existing.contains name :=
      List.mem_filter.2 ⟨mem, by simp [present]⟩
    rw [← map_fst_paint palette (catalog.roles.filter _)] at missing
    rw [List.map_map]
    exact .inr missing

theorem decides_ensureDeviceTypes (catalog : Catalog) (manufacturers : NameIndex) :
    Decides catalog .deviceType (ensureDeviceTypes catalog.deviceTypes manufacturers) :=
  decides_ensure_map (fun _ => rfl) (by simp [Catalog.requested, Function.comp_def])

theorem decides_ensureSites (catalog : Catalog) :
    Decides catalog .site (ensureSites catalog.sites) :=
  decides_ensure_map (fun _ => rfl) (by simp [Catalog.requested, Function.comp_def])

/-- A stage decides its keys and leaves the decided ones alone. -/
theorem Decides.conclude {stage : Stage NameIndex} (decides : Decides catalog kind stage)
    (balances : stage.Balances kind.stage [])
    (progress : Progress catalog knowns (kind :: later) state)
    (known : ∀ known ∈ knowns, known.kind.Apart kind.stage)
    (unasked : ∀ other ∈ later, other.Apart kind.stage) :
    (stage.conclude kind.stage).Ensures respond.overheard (fun result state =>
      Progress catalog (⟨kind, result.1, result.2⟩ :: knowns) later state) state := by
  obtain ⟨untried, untriedLater⟩ := List.forall_mem_cons.1 progress.untried
  have before : Progress catalog knowns later state := ⟨progress.decided, untriedLater⟩
  have others := before.conclude (balances.named.mono fun _ _ named => named.2) known unasked
  have own : (stage.conclude kind.stage).Ensures respond.overheard (fun result state =>
      result.1.aborted = none → result.2 = state.1.index kind ∧
        ∀ key ∈ catalog.requested kind, key ≠ "" →
          (standing kind key state result.1).Decided kind key) state :=
    (decides state untried).conclude (fun index _ _ decided _ => decided index rfl)
      fun _ _ _ _ => nofun
  refine (own.and others).mono ?_
  rintro ⟨report, index⟩ state' ⟨decided, progress⟩
  exact ⟨List.forall_mem_cons.2 ⟨decided, progress.decided⟩, progress.untried⟩

/-! ## All stages -/

theorem progress_runCatalog (catalog : Catalog) (palette : Palette)
    (progress : Progress catalog [] Catalog.kinds state) :
    (runCatalog catalog palette).Ensures respond.overheard (fun result state =>
      ∃ group permission manufacturer role deviceType site,
        result.1 = [group, permission, manufacturer, role, deviceType, site] ∧
        Progress catalog
          (knowledge result.2 group permission manufacturer role deviceType site) [] state)
      state := by
  refine ((decides_ensureGroups catalog).conclude (.ensure .group _) progress (by decide)
    (by decide)).bind ?_
  rintro ⟨group, groups⟩ state progress
  refine ((decides_ensurePermissions catalog groups).conclude
    (balances_ensurePermissions catalog groups) progress (by simp +decide) (by decide)).bind ?_
  rintro ⟨permission, permissions⟩ state progress
  refine ((decides_ensureManufacturers catalog).conclude (.ensure .manufacturer _) progress
    (by simp +decide) (by decide)).bind ?_
  rintro ⟨manufacturer, manufacturers⟩ state progress
  refine ((decides_ensureRoles catalog palette).conclude (.ensure .role _) progress
    (by simp +decide) (by decide)).bind ?_
  rintro ⟨role, roles⟩ state progress
  refine ((decides_ensureDeviceTypes catalog manufacturers).conclude (.ensure .deviceType _)
    progress (by simp +decide) (by decide)).bind ?_
  rintro ⟨deviceType, deviceTypes⟩ state progress
  refine ((decides_ensureSites catalog).conclude (.ensure .site _) progress
    (by simp +decide) (by decide)).bind ?_
  rintro ⟨site, sites⟩ state progress
  exact ⟨group, permission, manufacturer, role, deviceType, site, rfl, progress⟩

theorem progress_run (catalog : Catalog) (source? : Option MapSource) (palette : Palette)
    (progress : Progress catalog [] Catalog.kinds state) :
    (run catalog source? palette).Ensures respond.overheard (fun report state =>
      ∃ group permission manufacturer role deviceType site rest,
        report.stages = [group, permission, manufacturer, role, deviceType, site] ++ rest ∧
        Progress catalog (knowledge report.inventory group permission manufacturer role deviceType
          site) [] state) state := by
  refine (progress_runCatalog catalog palette progress).bind ?_
  rintro ⟨_, inventory⟩ state ⟨group, permission, manufacturer, role, deviceType, site, rfl,
    progress⟩
  have known (name : StageName) (other : name = .networkMap ∨ name = .prefixDescription) :
      ∀ known ∈ knowledge inventory group permission manufacturer role deviceType site,
        known.kind.Apart name := by
    obtain rfl | rfl := other <;> simp +decide [knowledge]
  have mapped : (runNetworkMap source? inventory).Ensures respond.overheard (fun _ state =>
      Progress catalog (knowledge inventory group permission manufacturer role deviceType site) []
        state) state := by
    cases source? with
    | none => exact progress
    | some source =>
      have belongs : ((networkMapStage source inventory).conclude .networkMap).Ensures
          Conduct.recorded (fun _ said => ∀ e ∈ (said : Transcript),
            e.question.stage = .networkMap) [] := by
        refine (concluded_networkMapStage source inventory []).mono ?_
        rintro result _ ⟨own, rfl, stage, tells⟩ e he
        exact (tells.belongs e he).trans stage
      exact (progress.conclude belongs (known _ (.inl rfl)) (by simp)).bind fun _ _ progress =>
        progress
  refine mapped.bind fun mapReports state progress => ?_
  refine (progress.conclude (balances_backfillDescriptions.named.mono fun _ _ named => named.2)
    (known _ (.inr rfl)) (by simp)).bind fun result state progress => ?_
  exact ⟨group, permission, manufacturer, role, deviceType, site, mapReports ++ [result.1],
    List.append_assoc _ _ _, progress⟩

/-- The stage of the kind has one report and one index, and unless it was aborted, it has dropped
none of the keys that were requested of it. -/
def Undropped (catalog : Catalog) (kind : Kind) (outcome : Report × MemoryStore)
    (said : Transcript) : Prop :=
  ∃ stage index, outcome.1.stages.filter (·.stage = kind.stage) = [stage] ∧
    outcome.1.inventory.index? kind.stage = some index ∧
    (stage.aborted = none → Complete kind (catalog.requested kind) stage index outcome.2 said)

/-- Whatever is set to fail or to be refused, no stage of the catalog drops a key. -/
theorem reconcile_complete (store : MemoryStore) (catalog : Catalog) (source? : Option MapSource)
    (palette : Palette) {kind : Kind} (seeded : kind ∈ Catalog.kinds) :
    Undropped catalog kind (store.reconcile catalog source? palette)
      ((run catalog source? palette).exchanges respond store) := by
  have start : Progress catalog [] Catalog.kinds (store, []) := ⟨by simp, fun _ _ _ => rfl⟩
  obtain ⟨group, permission, manufacturer, role, deviceType, site, rest, hstages, progress⟩ :=
    (progress_run catalog source? palette start).overheard
  have course := (recorded_run respond store catalog source? palette).stages
  have nodup := course ▸ StageName.nodup_course source?.isSome
  rw [hstages] at course
  have covered : ∀ kind ∈ Catalog.kinds, ∃ known ∈ knowledge
      ((run catalog source? palette).run respond store).1.inventory group permission manufacturer
      role deviceType site, known.kind = kind := by
    simp [knowledge, Catalog.kinds]
  obtain ⟨known, mem, rfl⟩ := covered kind seeded
  obtain ⟨hmem, hname, hindex⟩ := knowledge_named course known mem
  refine ⟨known.report, known.index, ?_, hindex, fun unaborted => ?_⟩
  · rw [← hname]
    exact MemoryStore.filter_eq_singleton nodup (hstages ▸ List.mem_append_left _ hmem)
  · obtain ⟨current, decided⟩ := progress.decided known mem unaborted
    rw [current]
    exact complete_of_decided decided

theorem reconcile_complete_clashing : .site ∈ Catalog.kinds ∧
    Undropped clashingCatalog .site
      (((MemoryStore.ofObjectTypes ["dcim.site"]).refuseName "Depot").reconcile clashingCatalog none
        default)
      ((run clashingCatalog none default).exchanges respond
        ((MemoryStore.ofObjectTypes ["dcim.site"]).refuseName "Depot")) :=
  ⟨by decide, reconcile_complete _ clashingCatalog none default (by decide)⟩

end Reconcile

end AssetSeed
