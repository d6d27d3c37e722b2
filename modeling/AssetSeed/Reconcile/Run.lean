import AssetSeed.Reconcile.Backfill
import AssetSeed.Reconcile.Catalog
import AssetSeed.Reconcile.Network

/-!
# Reconciliation

All stages, one after the other. A stage that ends early does not keep the next one from starting.

## Main definitions

* `Reconcile.run` — the stages, and the report of what they did.
* `Reconcile.waitUntilReady` — asks for the sites until the database answers.
-/

namespace AssetSeed.Reconcile

/-- The map at the configured path: a failure to read it, no map if there is no file, or the map. -/
abbrev MapSource := Except Failure (Option NetworkMap)

def networkMapStage (source : MapSource) (inventory : Inventory) : Stage Unit :=
  match source with
  | .error failure => throw failure
  | .ok none => pure ()
  | .ok (some map) => importNetworkMap map inventory

/-- The stages of the catalog: their reports, and the inventory that they return. -/
def runCatalog (catalog : Catalog) (palette : Palette) :
    StoreDialogue (List StageReport × Inventory) := do
  let (group, groups) ← Stage.conclude .group (ensureGroups catalog)
  let (permission, permissions) ← Stage.conclude .permission (ensurePermissions catalog groups)
  let (manufacturer, manufacturers) ←
    Stage.conclude .manufacturer (ensureManufacturers catalog.manufacturers)
  let (role, roles) ← Stage.conclude .role (ensureRoles catalog.roles palette)
  let (deviceType, deviceTypes) ←
    Stage.conclude .deviceType (ensureDeviceTypes catalog.deviceTypes manufacturers)
  let (site, sites) ← Stage.conclude .site (ensureSites catalog.sites)
  return ([group, permission, manufacturer, role, deviceType, site],
    { groups, permissions, manufacturers, roles, deviceTypes, sites })

/-- The stage of the network map, if a map is configured. -/
def runNetworkMap (source? : Option MapSource) (inventory : Inventory) :
    StoreDialogue (List StageReport) :=
  match source? with
  | none => pure []
  | some source => do
    let (report, _) ← Stage.conclude .networkMap (networkMapStage source inventory)
    return [report]

def run (catalog : Catalog) (source? : Option MapSource) (palette : Palette) :
    StoreDialogue Report := do
  let (reports, inventory) ← runCatalog catalog palette
  let mapReports ← runNetworkMap source? inventory
  let (description, _) ← Stage.conclude .prefixDescription backfillDescriptions
  return { stages := reports ++ mapReports ++ [description], inventory }

/-- Asks for the sites until that succeeds. A failure is returned at once unless `wait` is set, and
in any case after `patience` repetitions. -/
def waitUntilReady (wait : Bool) : (patience : Nat) → StoreDialogue (Except StoreError Unit)
  | 0 => do
    match ← Dialogue.call (P := StoreProtocol) (.list .site) with
    | .ok _ => return .ok ()
    | .error e => return .error e
  | patience + 1 => do
    match ← Dialogue.call (P := StoreProtocol) (.list .site) with
    | .ok _ => return .ok ()
    | .error e => if wait then waitUntilReady wait patience else return .error e

end AssetSeed.Reconcile
