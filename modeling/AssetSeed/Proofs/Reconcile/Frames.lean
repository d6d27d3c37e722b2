import AssetSeed.Proofs.Reconcile.Turns
import AssetSeed.Proofs.Stage.Ensures
import AssetSeed.Proofs.Store.Transcript

/-!
# Frames

A stage keeps what its requests keep. So what every request keeps that does not create records of a
kind, every stage keeps that does not create them, and a reconciliation keeps what its stages keep.

## Main definitions

* `Conduct.Spares` — an invariant survives every request but the creates of one kind.
* `Stage.Drafted` — every draft goes under its own key.

## Main statements

* `Reconcile.keeps_createDevices`, `Reconcile.keeps_assignAddresses`, … — invariants of stages.
* `Reconcile.ensures_run` — invariants of a reconciliation.
-/

namespace AssetSeed

variable {σ : Type} {conduct : Conduct StoreProtocol σ} {inv : σ → Prop} {kind other : Kind}

/-- The invariant survives every request that does not create a record of the kind. -/
def Conduct.Spares (conduct : Conduct StoreProtocol σ) (kind : Kind) (inv : σ → Prop) : Prop :=
  ∀ request, StoreRequest.creates? request ≠ some kind → conduct.Preserves inv request

namespace Conduct.Spares

theorem list (h : conduct.Spares kind inv) (listed : Kind) :
    conduct.Preserves inv (.list listed) :=
  h (.list listed) nofun

theorem create (h : conduct.Spares kind inv) (ne : other ≠ kind) (draft : other.Draft) :
    conduct.Preserves inv (.create other draft) :=
  h (.create other draft) fun heq => ne (Option.some.inj heq)

theorem setPrimary (h : conduct.Spares kind inv) (device : Int)
    (primary : Draft.PrimaryAddress) : conduct.Preserves inv (.setPrimary device primary) :=
  h (.setPrimary device primary) nofun

end Conduct.Spares

/-- Every draft that is wanted goes under its own key. -/
def Stage.Drafted (kind : Kind) (wanted : NameIndex → List (String × kind.Draft)) : Prop :=
  ∀ existing, ∀ item ∈ wanted existing, kind.draftKey item.2 = item.1

theorem Stage.drafted_map {ι : Type} {items : NameIndex → List ι} {f : ι → String × kind.Draft}
    (h : ∀ item, kind.draftKey (f item).2 = (f item).1) :
    Drafted kind fun existing => (items existing).map f := by
  intro existing item hitem
  obtain ⟨i, -, rfl⟩ := List.mem_map.1 hitem
  exact h i

namespace Reconcile

/-! ## Stages -/

theorem keeps_createInterface (create : ∀ draft, conduct.Preserves inv (.create .interface draft))
    (host : Host) (device : Int) : (createInterface host device).Keeps conduct inv := by
  rw [createInterface_eq]
  split
  · exact .pure ()
  · exact .attempt (create _)

theorem keeps_createDevice {inventory : Inventory} {host : Host}
    (device : conduct.Preserves inv (.create .device (deviceDraft inventory host.name)))
    (interface : ∀ draft, conduct.Preserves inv (.create .interface draft)) :
    (createDevice inventory host).Keeps conduct inv := by
  refine (Stage.Keeps.ask device).bind fun answer => ?_
  cases answer with
  | ok r => exact Stage.Keeps.noteCreated.bind fun _ => keeps_createInterface interface host _
  | error e => exact .tolerate _ e

theorem keeps_createDevices {inventory : Inventory}
    (turn : ∀ host, (createDevice inventory host).Keeps conduct inv) (existing : NameIndex)
    (attempted : List String) (hosts : List Host) :
    (createDevices existing inventory attempted hosts).Keeps conduct inv := by
  induction hosts generalizing attempted with
  | nil => exact .pure ()
  | cons host rest ih =>
    rw [createDevices_cons]
    split
    · exact ih attempted
    · exact (turn host).bind fun _ => ih _

theorem keeps_ensureDevices (list : conduct.Preserves inv (.list .device))
    (turn : ∀ inventory host, (createDevice inventory host).Keeps conduct inv)
    (hosts : List Host) (inventory : Inventory) :
    (ensureDevices hosts inventory).Keeps conduct inv :=
  (Stage.Keeps.readIndex list).bind fun existing =>
    (keeps_createDevices (turn inventory) existing [] hosts).bind fun _ => .readIndex list

section Addresses

variable (point : ∀ device primary, conduct.Preserves inv (.setPrimary device primary))

include point

theorem keeps_pointDevice (host : Host) (device : Int) (primary : Draft.PrimaryAddress) :
    (pointDevice host device primary).Keeps conduct inv := by
  refine (Stage.Keeps.ask (point device primary)).bind fun answer => ?_
  cases answer with
  | ok _ => exact .noteUpdated
  | error e => exact .tolerate _ e

variable (create : ∀ draft, conduct.Preserves inv (.create .address draft))

include create

theorem keeps_bindAddress (host : Host) (ip : IpAddress) (key : String) (device interface : Int) :
    (bindAddress host ip key device interface).Keeps conduct inv := by
  refine (Stage.Keeps.ask (create _)).bind fun answer => ?_
  cases answer with
  | ok address =>
    exact Stage.Keeps.noteCreated.bind fun _ =>
      (keeps_pointDevice point host device _).bind fun _ => .pure true
  | error e => exact (Stage.Keeps.tolerate key e).bind fun _ => .pure false

theorem keeps_createAddresses (existing devices : NameIndex) (interfaces : Index Int)
    (assigned : List Int) (hosts : List Host) :
    (createAddresses existing devices interfaces assigned hosts).Keeps conduct inv := by
  induction hosts generalizing assigned with
  | nil => exact .pure ()
  | cons host rest ih =>
    rw [createAddresses_cons]
    split
    · exact ih assigned
    · split
      · exact Stage.Keeps.noteSkipped.bind fun _ => ih _
      · split
        · exact Stage.Keeps.noteSkipped.bind fun _ => ih _
        · exact (keeps_bindAddress point create host _ _ _ _).bind fun _ => ih _

theorem keeps_assignAddresses (list : conduct.Preserves inv (.list .address)) (hosts : List Host)
    (devices : NameIndex) (interfaces : Index Int) :
    (assignAddresses hosts devices interfaces).Keeps conduct inv :=
  (Stage.Keeps.readIndex list).bind fun existing =>
    keeps_createAddresses point create existing devices interfaces [] hosts

end Addresses

theorem keeps_backfillDescriptions (list : conduct.Preserves inv .listUndescribed)
    (describe : ∀ id description, conduct.Preserves inv (.describe id description)) :
    backfillDescriptions.Keeps conduct inv := by
  refine (Stage.Keeps.demand list).bind fun networks => ?_
  induction networks with
  | nil => exact .pure ()
  | cons network rest ih =>
    rw [describePrefixes_cons, describePrefix]
    refine Stage.Keeps.bind ?_ fun _ => ih
    split
    · exact .pure ()
    · refine (Stage.Keeps.ask (describe _ _)).bind fun answer => ?_
      cases answer with
      | ok _ => exact .noteUpdated
      | error _ => exact .noteSkipped

theorem keeps_networkMapStage (spared : conduct.Spares kind inv) (ne : .address ≠ kind)
    (prefixes : ∀ wanted, Stage.Drafted .ipPrefix wanted →
      (Stage.ensure .ipPrefix wanted).Keeps conduct inv)
    (devices : ∀ hosts inventory, (ensureDevices hosts inventory).Keeps conduct inv)
    (source : MapSource) (inventory : Inventory) :
    (networkMapStage source inventory).Keeps conduct inv := by
  obtain failure | _ | map := source
  · exact .throw failure
  · exact .pure ()
  · refine (prefixes _ (Stage.drafted_map fun _ => rfl)).bind fun _ => ?_
    refine (devices map.hosts inventory).bind fun _ => ?_
    refine (Stage.Keeps.demand (spared.list .interface)).bind fun _ => ?_
    exact keeps_assignAddresses spared.setPrimary (spared.create ne) (spared.list .address) _ _ _

theorem ensures_runNetworkMap {inventory : Inventory}
    (keeps : ∀ source, (networkMapStage source inventory).Keeps conduct inv)
    (source? : Option MapSource) {s : σ} (h : inv s) :
    (runNetworkMap source? inventory).Ensures conduct (fun _ s => inv s) s := by
  cases source? with
  | none => exact h
  | some source => exact ((keeps source).conclude .networkMap h).bind fun _ _ h => h

theorem keeps_backfill (spared : conduct.Spares kind inv) :
    backfillDescriptions.Keeps conduct inv :=
  keeps_backfillDescriptions (spared .listUndescribed nofun) fun id description =>
    spared (.describe id description) nofun

/-! ## All stages -/

section Run

variable (spared : conduct.Spares kind inv)
  (ensured : ∀ other wanted, other ≠ .interface → Stage.Drafted other wanted →
    (Stage.ensure other wanted).Keeps conduct inv)
  (devices : ∀ hosts inventory, (ensureDevices hosts inventory).Keeps conduct inv)

include spared ensured

theorem ensures_runCatalog (catalog : Catalog) (palette : Palette) {s : σ} (h : inv s) :
    (runCatalog catalog palette).Ensures conduct (fun _ s => inv s) s := by
  have group : (ensureGroups catalog).Keeps conduct inv :=
    ensured .group _ nofun (Stage.drafted_map fun _ => rfl)
  have permission (groups : NameIndex) : (ensurePermissions catalog groups).Keeps conduct inv :=
    (Stage.Keeps.demand (spared.list .objectType)).bind fun _ =>
      ensured .permission _ nofun (Stage.drafted_map fun _ => rfl)
  have manufacturer : (ensureManufacturers catalog.manufacturers).Keeps conduct inv :=
    ensured .manufacturer _ nofun (Stage.drafted_map fun _ => rfl)
  have role : (ensureRoles catalog.roles palette).Keeps conduct inv :=
    ensured .role _ nofun (Stage.drafted_map fun _ => rfl)
  have deviceType (manufacturers : NameIndex) :
      (ensureDeviceTypes catalog.deviceTypes manufacturers).Keeps conduct inv :=
    ensured .deviceType _ nofun (Stage.drafted_map fun _ => rfl)
  have site : (ensureSites catalog.sites).Keeps conduct inv :=
    ensured .site _ nofun (Stage.drafted_map fun _ => rfl)
  refine (group.conclude .group h).bind fun _ _ h => ?_
  refine ((permission _).conclude .permission h).bind fun _ _ h => ?_
  refine (manufacturer.conclude .manufacturer h).bind fun _ _ h => ?_
  refine (role.conclude .role h).bind fun _ _ h => ?_
  refine ((deviceType _).conclude .deviceType h).bind fun _ _ h => ?_
  exact (site.conclude .site h).bind fun _ _ h => h

include devices

/-- What every stage keeps holds after a reconciliation if it held before. -/
theorem ensures_run (ne : .address ≠ kind) (catalog : Catalog) (source? : Option MapSource)
    (palette : Palette) {s : σ} (h : inv s) :
    (run catalog source? palette).Ensures conduct (fun _ s => inv s) s := by
  have mapped (inventory : Inventory) (source : MapSource) :
      (networkMapStage source inventory).Keeps conduct inv :=
    keeps_networkMapStage spared ne (fun wanted => ensured .ipPrefix wanted nofun) devices _ _
  refine (ensures_runCatalog spared ensured catalog palette h).bind fun result s h => ?_
  refine (ensures_runNetworkMap (mapped result.2) source? h).bind fun _ s h => ?_
  exact ((keeps_backfill spared).conclude .prefixDescription h).bind fun _ _ h => h

end Run

end Reconcile

end AssetSeed
