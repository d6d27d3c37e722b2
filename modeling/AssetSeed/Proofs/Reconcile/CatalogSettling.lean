import AssetSeed.Proofs.Reconcile.Settling
import AssetSeed.Reconcile.Run

/-!
# The wants of a catalog

Each stage of the catalog is a stage for one want. The stages do not disturb each other: what one of
them settles stays settled.

## Main definitions

* `Catalog.groups`, … — the want of each stage.
* `Catalog.Settled` — all of them are settled.
* `Catalog.refusals` — what each stage has to report.

## Main statements

* `Reconcile.runCatalog_run` — the stages of the catalog, in terms of the database that they leave.
-/

namespace AssetSeed

open MemoryStore (respond Undisturbed Unchanged Grows Spares)

/-! ## Wants -/

namespace Catalog

def groups (catalog : Catalog) : Want .group where
  keys := [catalog.staffGroup, catalog.defaultGroup]
  draft name := { name }
  draftKey _ := rfl

/-- The permissions by name alone: nothing else about them matters to a database. -/
def permissions (catalog : Catalog) : Want .permission where
  keys := (PermissionSpec.ofCatalog catalog).map (·.name)
  draft name := { name, enabled := true, groups := [], actions := [], objectTypes := [] }
  draftKey _ := rfl

def manufacturerWant (catalog : Catalog) : Want .manufacturer where
  keys := catalog.manufacturers
  draft name := { name, slug := Text.slug name }
  draftKey _ := rfl

/-- The roles without their colours. -/
def roleWant (catalog : Catalog) : Want .role where
  keys := catalog.roles
  draft name := { name, slug := Text.slug name, vmRole := true, color := "" }
  draftKey _ := rfl

def deviceTypeWant (catalog : Catalog) (manufacturer : Option Int) : Want .deviceType where
  keys := catalog.deviceTypes
  draft model := { manufacturer, model, slug := Text.slug model }
  draftKey _ := rfl

def siteWant (catalog : Catalog) : Want .site where
  keys := catalog.sites
  draft name := { name, slug := Text.slug name, status := "active" }
  draftKey _ := rfl

/-- The device types that are wanted when the database has these manufacturers. -/
def deviceTypesIn (catalog : Catalog) (store : MemoryStore) : Want .deviceType :=
  catalog.deviceTypeWant (store.index .manufacturer).lowest?

/-- The catalog can get no more from the database than it has. -/
structure Settled (catalog : Catalog) (store : MemoryStore) : Prop where
  groups : catalog.groups.Settled store
  permissions : catalog.permissions.Settled store
  manufacturers : catalog.manufacturerWant.Settled store
  roles : catalog.roleWant.Settled store
  deviceTypes : (catalog.deviceTypesIn store).Settled store
  sites : catalog.siteWant.Settled store

/-- What each stage has to report to a catalog that is settled. -/
def refusals (catalog : Catalog) (store : MemoryStore) : List (StageName × List Rejection) :=
  [(.group, catalog.groups.refusals store), (.permission, catalog.permissions.refusals store),
    (.manufacturer, catalog.manufacturerWant.refusals store),
    (.role, catalog.roleWant.refusals store),
    (.deviceType, (catalog.deviceTypesIn store).refusals store),
    (.site, catalog.siteWant.refusals store)]

end Catalog

namespace Catalog

/-- The kinds of the records that a catalog names. -/
def kinds : List Kind :=
  [.group, .permission, .manufacturer, .role, .deviceType, .site]

variable {catalog : Catalog} {old new : MemoryStore}

theorem deviceTypesIn_eq (h : new.records .manufacturer = old.records .manufacturer) :
    catalog.deviceTypesIn new = catalog.deviceTypesIn old := by
  simp only [deviceTypesIn, MemoryStore.index_congr h]

theorem Settled.mono (settled : catalog.Settled old) (h : ∀ kind ∈ kinds, Spares kind old new) :
    catalog.Settled new where
  groups := settled.groups.mono (h .group (by decide))
  permissions := settled.permissions.mono (h .permission (by decide))
  manufacturers := settled.manufacturers.mono (h .manufacturer (by decide))
  roles := settled.roles.mono (h .role (by decide))
  deviceTypes := by
    rw [deviceTypesIn_eq (h .manufacturer (by decide)).records_eq]
    exact settled.deviceTypes.mono (h .deviceType (by decide))
  sites := settled.sites.mono (h .site (by decide))

theorem refusals_eq (h : ∀ kind ∈ kinds, Spares kind old new) :
    catalog.refusals new = catalog.refusals old := by
  simp only [refusals, deviceTypesIn_eq (h .manufacturer (by decide)).records_eq,
    Want.refusals_eq (h .group (by decide)), Want.refusals_eq (h .permission (by decide)),
    Want.refusals_eq (h .manufacturer (by decide)), Want.refusals_eq (h .role (by decide)),
    Want.refusals_eq (h .deviceType (by decide)), Want.refusals_eq (h .site (by decide))]

end Catalog

/-- The records that a catalog is about. -/
def MemoryStore.inventory (store : MemoryStore) : Inventory where
  groups := store.index .group
  permissions := store.index .permission
  manufacturers := store.index .manufacturer
  roles := store.index .role
  deviceTypes := store.index .deviceType
  sites := store.index .site

theorem MemoryStore.inventory_eq {old new : MemoryStore}
    (h : ∀ kind ∈ Catalog.kinds, Spares kind old new) : new.inventory = old.inventory := by
  have same : ∀ kind ∈ Catalog.kinds, new.index kind = old.index kind :=
    fun kind hkind => index_congr (h kind hkind).records_eq
  simp only [inventory, same .group (by decide), same .permission (by decide),
    same .manufacturer (by decide), same .role (by decide), same .deviceType (by decide),
    same .site (by decide)]

namespace Reconcile

variable {store : MemoryStore}

/-! ## Stages -/

/-- A stage that ends well: its report, its index, and what has been settled. -/
def Concludes {kind : Kind} (stage : Stage NameIndex) (name : StageName) (want : Want kind)
    (store : MemoryStore) : Prop :=
  ∃ created new, (stage.conclude name).run respond store =
    ((want.report name created new, new.index kind), new) ∧
    Stage.Settles want store new created

/-- Judging drafts by what the want makes of their keys. -/
theorem judged_map {kind : Kind} (want : Want kind) :
    Stage.Judged want (want.keys.map fun key => (key, want.draft key)) := by
  intro item hitem
  obtain ⟨key, -, rfl⟩ := List.mem_map.1 hitem
  exact ⟨want.draftKey key, fun _ => rfl⟩

theorem concludes_ensure {kind : Kind} (want : Want kind) (quiet : Undisturbed store)
    (name : StageName) :
    Concludes (Stage.ensure kind fun _ => want.keys.map fun key => (key, want.draft key)) name want
      store := by
  refine Stage.run_conclude_ensure quiet (judged_map want) ?_ name
  simp [Want.outstanding, Function.comp_def]

theorem concludes_ensureGroups (quiet : Undisturbed store) (catalog : Catalog) :
    Concludes (ensureGroups catalog) .group catalog.groups store :=
  concludes_ensure catalog.groups quiet .group

theorem concludes_ensureManufacturers (quiet : Undisturbed store) (catalog : Catalog) :
    Concludes (ensureManufacturers catalog.manufacturers) .manufacturer catalog.manufacturerWant
      store :=
  concludes_ensure catalog.manufacturerWant quiet .manufacturer

theorem concludes_ensureDeviceTypes (quiet : Undisturbed store) (catalog : Catalog) :
    Concludes (ensureDeviceTypes catalog.deviceTypes (store.index .manufacturer)) .deviceType
      (catalog.deviceTypesIn store) store :=
  concludes_ensure (catalog.deviceTypesIn store) quiet .deviceType

theorem concludes_ensureSites (quiet : Undisturbed store) (catalog : Catalog) :
    Concludes (ensureSites catalog.sites) .site catalog.siteWant store :=
  concludes_ensure catalog.siteWant quiet .site

theorem concludes_ensurePermissions (quiet : Undisturbed store) (catalog : Catalog)
    (groups : NameIndex) :
    Concludes (ensurePermissions catalog groups) .permission catalog.permissions store := by
  have listed := fun report =>
    Stage.runWith_demand_of_ok respond (quiet.list_eq .objectType) report
  have granted : Concludes (Stage.ensure .permission fun _ => wantedPermissions catalog groups
      (store.objectTypes.map Record.ObjectType.qualifiedName)) .permission catalog.permissions
      store := by
    refine Stage.run_conclude_ensure quiet (fun item hitem => ?_) ?_ .permission
    · obtain ⟨spec, -, rfl⟩ := List.mem_map.1 hitem
      exact ⟨rfl, fun _ => rfl⟩
    · rw [wantedPermissions, List.map_map]
      rfl
  obtain ⟨created, new, hrun, hsettles⟩ := granted
  refine ⟨created, new, ?_, hsettles⟩
  rw [← hrun]
  exact Stage.run_conclude_congr respond (Stage.runWith_bind_of_ok respond (listed _))

theorem map_fst_paint {α : Type} (palette : Palette) (items : List α) :
    (palette.paint items).map Prod.fst = items := by
  induction items generalizing palette with
  | nil => rfl
  | cons item rest ih => exact congrArg (item :: ·) (ih _)

/-- The roles that are asked for are judged without their colours, and those that a stage does not
draw colours for it would not ask for anyway. -/
theorem concludes_ensureRoles (quiet : Undisturbed store) (catalog : Catalog)
    (palette : Palette) :
    Concludes (ensureRoles catalog.roles palette) .role catalog.roleWant store := by
  refine Stage.run_conclude_ensure quiet (fun item hitem => ?_) ?_ .role
  · obtain ⟨⟨name, color⟩, -, rfl⟩ := List.mem_map.1 hitem
    exact ⟨rfl, fun _ => rfl⟩
  · rw [List.map_map]
    exact (congrArg (Stage.outstanding _ []) (map_fst_paint palette _)).trans
      Stage.outstanding_filter_missing

/-! ## All stages of the catalog -/

/-- What the stages of the catalog have done: they have settled it, and if it was settled before,
they have done nothing. -/
structure CatalogOutcome (catalog : Catalog) (old new : MemoryStore) (reports : List StageReport) :
    Prop where
  grows : Grows Catalog.kinds old new
  settled : catalog.Settled new
  refused : reports.map (fun report => (report.stage, report.rejections)) = catalog.refusals new
  calm : ∀ report ∈ reports, report.updated = 0 ∧ report.aborted = none
  idle : catalog.Settled old → (∀ report ∈ reports, report.created = 0) ∧ Unchanged old new

section Steps

variable {catalog : Catalog} {s₀ s₁ s₂ s₃ s₄ s₅ s₆ : MemoryStore} {n₁ n₂ n₃ n₄ n₅ n₆ : Nat}

/-- What a stage has to do with is left alone by the stages after it. -/
structure Spared (s₁ s₂ s₃ s₄ s₅ s₆ : MemoryStore) : Prop where
  groups : Spares .group s₁ s₆
  permissions : Spares .permission s₂ s₆
  manufacturers : Spares .manufacturer s₃ s₆
  roles : Spares .role s₄ s₆
  deviceTypes : Spares .deviceType s₅ s₆

theorem spared_of_grows (permissions : Grows [.permission] s₁ s₂)
    (manufacturers : Grows [.manufacturer] s₂ s₃) (roles : Grows [.role] s₃ s₄)
    (deviceTypes : Grows [.deviceType] s₄ s₅) (sites : Grows [.site] s₅ s₆) :
    Spared s₁ s₂ s₃ s₄ s₅ s₆ ∧
      Grows [.permission, .manufacturer, .role, .deviceType, .site] s₁ s₆ := by
  have after₄ : Grows [.deviceType, .site] s₄ s₆ := deviceTypes.append sites
  have after₃ : Grows [.role, .deviceType, .site] s₃ s₆ := roles.append after₄
  have after₂ : Grows [.manufacturer, .role, .deviceType, .site] s₂ s₆ :=
    manufacturers.append after₃
  have after₁ : Grows [.permission, .manufacturer, .role, .deviceType, .site] s₁ s₆ :=
    permissions.append after₂
  refine ⟨⟨?_, ?_, ?_, ?_, ?_⟩, after₁⟩
  · exact after₁.spares (by decide)
  · exact after₂.spares (by decide)
  · exact after₃.spares (by decide)
  · exact after₄.spares (by decide)
  · exact sites.spares (by decide)

/-- The six stages, one after the other. -/
theorem CatalogOutcome.of_settles (groups : Stage.Settles catalog.groups s₀ s₁ n₁)
    (permissions : Stage.Settles catalog.permissions s₁ s₂ n₂)
    (manufacturers : Stage.Settles catalog.manufacturerWant s₂ s₃ n₃)
    (roles : Stage.Settles catalog.roleWant s₃ s₄ n₄)
    (deviceTypes : Stage.Settles (catalog.deviceTypesIn s₄) s₄ s₅ n₅)
    (sites : Stage.Settles catalog.siteWant s₅ s₆ n₆) :
    CatalogOutcome catalog s₀ s₆ [catalog.groups.report .group n₁ s₁,
      catalog.permissions.report .permission n₂ s₂,
      catalog.manufacturerWant.report .manufacturer n₃ s₃, catalog.roleWant.report .role n₄ s₄,
      (catalog.deviceTypesIn s₄).report .deviceType n₅ s₅,
      catalog.siteWant.report .site n₆ s₆] := by
  obtain ⟨spared, later⟩ := spared_of_grows permissions.grows manufacturers.grows roles.grows
    deviceTypes.grows sites.grows
  have same₄ : s₆.records .manufacturer = s₄.records .manufacturer :=
    (deviceTypes.grows.append sites.grows).others .manufacturer (by decide)
  have wanted : catalog.deviceTypesIn s₆ = catalog.deviceTypesIn s₄ :=
    Catalog.deviceTypesIn_eq same₄
  refine ⟨groups.grows.append later, ?_, ?_, by simp [Want.report], ?_⟩
  · constructor
    · exact groups.settled.mono spared.groups
    · exact permissions.settled.mono spared.permissions
    · exact manufacturers.settled.mono spared.manufacturers
    · exact roles.settled.mono spared.roles
    · rw [wanted]
      exact deviceTypes.settled.mono spared.deviceTypes
    · exact sites.settled
  · simp only [Catalog.refusals, wanted, Want.refusals_eq spared.groups,
      Want.refusals_eq spared.permissions, Want.refusals_eq spared.manufacturers,
      Want.refusals_eq spared.roles, Want.refusals_eq spared.deviceTypes]
    rfl
  · intro settled
    obtain ⟨rfl, unchanged⟩ := groups.idle_of_unchanged settled.groups (.refl s₀)
    obtain ⟨rfl, unchanged⟩ := permissions.idle_of_unchanged settled.permissions unchanged
    obtain ⟨rfl, unchanged⟩ := manufacturers.idle_of_unchanged settled.manufacturers unchanged
    obtain ⟨rfl, unchanged⟩ := roles.idle_of_unchanged settled.roles unchanged
    rw [Catalog.deviceTypesIn_eq (unchanged.records .manufacturer)] at deviceTypes
    obtain ⟨rfl, unchanged⟩ := deviceTypes.idle_of_unchanged settled.deviceTypes unchanged
    obtain ⟨rfl, unchanged⟩ := sites.idle_of_unchanged settled.sites unchanged
    exact ⟨by simp [Want.report], unchanged⟩

end Steps

theorem runCatalog_run (quiet : Undisturbed store) (catalog : Catalog) (palette : Palette) :
    ∃ reports new, (runCatalog catalog palette).run respond store =
      ((reports, new.inventory), new) ∧ CatalogOutcome catalog store new reports := by
  obtain ⟨n₁, s₁, run₁, groups⟩ := concludes_ensureGroups quiet catalog
  have quiet₁ := groups.grows.undisturbed quiet
  obtain ⟨n₂, s₂, run₂, permissions⟩ :=
    concludes_ensurePermissions quiet₁ catalog (s₁.index .group)
  have quiet₂ := permissions.grows.undisturbed quiet₁
  obtain ⟨n₃, s₃, run₃, manufacturers⟩ := concludes_ensureManufacturers quiet₂ catalog
  have quiet₃ := manufacturers.grows.undisturbed quiet₂
  obtain ⟨n₄, s₄, run₄, roles⟩ := concludes_ensureRoles quiet₃ catalog palette
  have quiet₄ := roles.grows.undisturbed quiet₃
  obtain ⟨n₅, s₅, run₅, deviceTypes⟩ := concludes_ensureDeviceTypes quiet₄ catalog
  have quiet₅ := deviceTypes.grows.undisturbed quiet₄
  obtain ⟨n₆, s₆, run₆, sites⟩ := concludes_ensureSites quiet₅ catalog
  -- device types are asked for with the manufacturers from before the roles
  have same₄ : s₄.records .manufacturer = s₃.records .manufacturer :=
    roles.grows.others .manufacturer (by decide)
  rw [MemoryStore.index_congr same₄] at run₅
  obtain ⟨spared, -⟩ := spared_of_grows permissions.grows manufacturers.grows roles.grows
    deviceTypes.grows sites.grows
  refine ⟨_, s₆, ?_, .of_settles groups permissions manufacturers roles deviceTypes sites⟩
  simp only [runCatalog, Dialogue.run_bind, run₁, run₂, run₃, run₄, run₅, run₆, Dialogue.run_pure,
    MemoryStore.inventory, MemoryStore.index_congr spared.groups.records_eq,
    MemoryStore.index_congr spared.permissions.records_eq,
    MemoryStore.index_congr spared.manufacturers.records_eq,
    MemoryStore.index_congr spared.roles.records_eq,
    MemoryStore.index_congr spared.deviceTypes.records_eq]

end Reconcile

end AssetSeed
