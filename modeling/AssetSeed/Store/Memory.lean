import AssetSeed.Store.Protocol
import AssetSeed.Text.Slug

/-!
# An asset database in memory

A database that numbers its records in one sequence, refuses most duplicates, and can be told to
refuse names or to fail.

## Main definitions

* `MemoryStore` — the collections, and what has been set to fail.
* `MemoryStore.records`, `MemoryStore.setRecords` — the collection of a kind.
* `MemoryStore.addSite`, … — putting records in place without a request.
* `MemoryStore.respond` — the answer to a request.
-/

namespace AssetSeed

/-- How long the listings of a kind fail. -/
inductive Outage where
  | forever
  | times (remaining : Nat)
deriving Repr, DecidableEq

structure MemoryStore where
  /-- The identifier given out last. -/
  lastId : Int := 0
  groups : List Record.Group := []
  permissions : List Record.Permission := []
  /-- The drafts of the permissions, in order. -/
  permissionDrafts : List Draft.Permission := []
  objectTypes : List Record.ObjectType := []
  manufacturers : List Record.Manufacturer := []
  roles : List Record.Role := []
  deviceTypes : List Record.DeviceType := []
  sites : List Record.Site := []
  prefixes : List Record.IpPrefix := []
  devices : List Record.Device := []
  /-- The drafts of the devices that were created on request. -/
  deviceDrafts : List Draft.Device := []
  interfaces : List Record.Interface := []
  addresses : List Record.Address := []
  /-- Keys that are refused in every create. -/
  refusedNames : List String := []
  outages : List (Kind × Outage) := []
  failingUpdates : Bool := false
  /-- How many creates have been asked for. -/
  createCalls : Nat := 0
deriving Repr, DecidableEq, Inhabited

namespace MemoryStore

def records (store : MemoryStore) : (kind : Kind) → List kind.Record
  | .group => store.groups
  | .objectType => store.objectTypes
  | .permission => store.permissions
  | .manufacturer => store.manufacturers
  | .role => store.roles
  | .deviceType => store.deviceTypes
  | .site => store.sites
  | .ipPrefix => store.prefixes
  | .device => store.devices
  | .interface => store.interfaces
  | .address => store.addresses

def setRecords (store : MemoryStore) : (kind : Kind) → List kind.Record → MemoryStore
  | .group, rs => { store with groups := rs }
  | .objectType, rs => { store with objectTypes := rs }
  | .permission, rs => { store with permissions := rs }
  | .manufacturer, rs => { store with manufacturers := rs }
  | .role, rs => { store with roles := rs }
  | .deviceType, rs => { store with deviceTypes := rs }
  | .site, rs => { store with sites := rs }
  | .ipPrefix, rs => { store with prefixes := rs }
  | .device, rs => { store with devices := rs }
  | .interface, rs => { store with interfaces := rs }
  | .address, rs => { store with addresses := rs }

/-- Appends a record that carries the next identifier. -/
def append (store : MemoryStore) (kind : Kind) (record : Int → kind.Record) :
    kind.Record × MemoryStore :=
  let id := store.lastId + 1
  (record id, { store with lastId := id }.setRecords kind (store.records kind ++ [record id]))

/-! ## Records put in place -/

/-- The object type that a text names: what stands before and after the first point. -/
def addObjectType (store : MemoryStore) (name : String) : MemoryStore :=
  let (appLabel, model) := (Text.cut? '.' name.toList).getD (name.toList, [])
  (store.append .objectType fun id =>
    { id, appLabel := String.ofList appLabel, model := String.ofList model }).2

def ofObjectTypes (names : List String) : MemoryStore :=
  names.foldl addObjectType {}

def addSite (store : MemoryStore) (name : String) : Int × MemoryStore :=
  let (site, store) := store.append .site fun id => { id, name, slug := Text.slug name }
  (site.id, store)

def addManufacturer (store : MemoryStore) (name : String) : Int × MemoryStore :=
  let (manufacturer, store) :=
    store.append .manufacturer fun id => { id, name, slug := Text.slug name }
  (manufacturer.id, store)

def addRole (store : MemoryStore) (name : String) : Int × MemoryStore :=
  let (role, store) :=
    store.append .role fun id => { id, name, slug := Text.slug name, color := "9e9e9e" }
  (role.id, store)

def addDeviceType (store : MemoryStore) (model : String) : Int × MemoryStore :=
  let (deviceType, store) :=
    store.append .deviceType fun id =>
      { id, model, slug := Text.slug model, manufacturer := none }
  (deviceType.id, store)

def addDevice (store : MemoryStore) (name : String) : Int × MemoryStore :=
  let (device, store) := store.append .device fun id =>
    { id, name := some name, deviceType := none, role := none, site := none, primaryIp4 := none,
      primaryIp := none }
  (device.id, store)

/-- A prefix, and with it the VRF that it names, which takes the identifier after the prefix. -/
def addPrefix (store : MemoryStore) (cidr description : String) (vrf : Option String) :
    Int × MemoryStore :=
  let (network, store) := store.append .ipPrefix fun id =>
    { id, cidr, description, site := none,
      vrf := vrf.map fun name => Record.Reference.ofName (id + 1) name }
  (network.id, { store with lastId := store.lastId + if vrf.isSome then 1 else 0 })

def addAddress (store : MemoryStore) (address : String) : Int × MemoryStore :=
  let (record, store) := store.append .address fun id =>
    { id, address, assignedType := none, assignedId := none }
  (record.id, store)

/-! ## Faults -/

def refuseName (store : MemoryStore) (name : String) : MemoryStore :=
  { store with refusedNames := name :: store.refusedNames }

def setOutage (store : MemoryStore) (kind : Kind) (outage : Outage) : MemoryStore :=
  { store with outages := (kind, outage) :: store.outages.filter fun entry => entry.1 ≠ kind }

def failUpdates (store : MemoryStore) : MemoryStore :=
  { store with failingUpdates := true }

def outage (store : MemoryStore) (kind : Kind) : Outage :=
  ((store.outages.find? fun entry => entry.1 = kind).map (·.2)).getD (.times 0)

/-! ## Requests -/

/-- What a listing of the kind returns in place of records, while it fails. -/
def checkListing (store : MemoryStore) (kind : Kind) : Except StoreError Unit × MemoryStore :=
  let failed := Except.error (.connectivity (kind.label ++ " listing unavailable"))
  match store.outage kind with
  | .forever => (failed, store)
  | .times 0 => (.ok (), store)
  | .times (n + 1) => (failed, store.setOutage kind (.times n))

def list (store : MemoryStore) (kind : Kind) (wanted : kind.Record → Bool) :
    Except StoreError (List kind.Record) × MemoryStore :=
  match store.checkListing kind with
  | (.ok (), store) => (.ok ((store.records kind).filter wanted), store)
  | (.error e, store) => (.error e, store)

def refusal (body : String) : StoreError :=
  .rejected 400 body

/-- Why a draft is refused whatever it refers to: its key is a refused name, or is taken. -/
def refusal? (store : MemoryStore) (key : String) (duplicate : Bool) : Option StoreError :=
  if store.refusedNames.contains key then some (refusal (key ++ " is not allowed"))
  else if duplicate then some (refusal (key ++ " already exists"))
  else none

/-- Whether the draft would repeat a record: by name, or by slug where a slug is the address of the
record. Prefixes and interfaces may be repeated. -/
def isDuplicate (store : MemoryStore) : (kind : Kind) → kind.Draft → Bool
  | .group, d => store.groups.any fun r => r.name = d.name
  | .objectType, d => nomatch d
  | .permission, d => store.permissions.any fun r => r.name = d.name
  | .manufacturer, d => store.manufacturers.any fun r => r.name = d.name || r.slug = d.slug
  | .role, d => store.roles.any fun r => r.name = d.name || r.slug = d.slug
  | .deviceType, d => store.deviceTypes.any fun r => r.model = d.model
  | .site, d => store.sites.any fun r => r.name = d.name || r.slug = d.slug
  | .ipPrefix, _ => false
  | .device, d => store.devices.any fun r => r.name = some d.name
  | .interface, _ => false
  | .address, d => store.addresses.any fun r => r.address = d.address

/-- The record of an identifier, as others mention it by its key. -/
def mention? (store : MemoryStore) (kind : Kind) (id : Option Int) : Option Record.Reference :=
  id.bind fun id =>
    ((store.records kind).find? fun r => kind.id r = id).map fun r =>
      Record.Reference.ofName (kind.id r) ((kind.key? r).getD "")

/-- The record that a draft makes, as a function of its identifier, or why it makes none. -/
def build (store : MemoryStore) : (kind : Kind) → kind.Draft → Except StoreError (Int → kind.Record)
  | .group, d => .ok fun id => { id, name := d.name }
  | .objectType, d => nomatch d
  | .permission, d => .ok fun id => { id, name := d.name, enabled := d.enabled }
  | .manufacturer, d => .ok fun id => { id, name := d.name, slug := d.slug }
  | .role, d => .ok fun id => { id, name := d.name, slug := d.slug, color := d.color }
  | .deviceType, d =>
    match store.mention? .manufacturer d.manufacturer with
    | some manufacturer =>
      .ok fun id => { id, model := d.model, slug := d.slug, manufacturer := some manufacturer }
    | none => .error (refusal "manufacturer: This field is required.")
  | .site, d => .ok fun id => { id, name := d.name, slug := d.slug }
  | .ipPrefix, d => .ok fun id =>
    { id, cidr := d.cidr, description := d.description, site := store.mention? .site d.site,
      vrf := none }
  | .device, d =>
    match store.mention? .site d.site, store.mention? .role d.role,
      store.mention? .deviceType d.deviceType with
    | some site, some role, some deviceType => .ok fun id =>
      { id, name := some d.name, deviceType := some deviceType, role := some role,
        site := some site, primaryIp4 := none, primaryIp := none }
    | _, _, _ => .error (refusal "site, role and device_type are required")
  | .interface, d =>
    match store.devices.find? fun r => r.id = d.device with
    | some device => .ok fun id =>
      { id, name := d.name, macAddress := d.macAddress,
        device := some { id := device.id, name := device.name } }
    | none => .error (refusal "device does not exist")
  | .address, d => .ok fun id =>
    { id, address := d.address, assignedType := some d.assignedType,
      assignedId := some d.assignedId }

/-- Keeps the drafts of permissions and devices that were accepted. -/
def keepDraft (store : MemoryStore) : (kind : Kind) → kind.Draft → MemoryStore
  | .permission, d => { store with permissionDrafts := store.permissionDrafts ++ [d] }
  | .device, d => { store with deviceDrafts := store.deviceDrafts ++ [d] }
  | _, _ => store

def create (store : MemoryStore) (kind : Kind) (draft : kind.Draft) :
    Except StoreError kind.Record × MemoryStore :=
  let store := { store with createCalls := store.createCalls + 1 }
  match store.refusal? (kind.draftKey draft) (store.isDuplicate kind draft) with
  | some e => (.error e, store)
  | none =>
    match store.build kind draft with
    | .error e => (.error e, store)
    | .ok record =>
      let (record, store) := store.append kind record
      (.ok record, store.keepDraft kind draft)

/-- The list with the first record that has the identifier changed, and that record. -/
def modifyFirst {α : Type} (idOf : α → Int) (id : Int) (change : α → α) :
    List α → Option (α × List α)
  | [] => none
  | r :: rest =>
    if idOf r = id then some (change r, change r :: rest)
    else (modifyFirst idOf id change rest).map fun (found, rest) => (found, r :: rest)

def updateFailure : StoreError :=
  .unexpected "update failed"

def notFound : StoreError :=
  .rejected 404 "Not found."

def describe (store : MemoryStore) (id : Int) (description : String) :
    Except StoreError Record.IpPrefix × MemoryStore :=
  if store.failingUpdates then (.error updateFailure, store)
  else
    match modifyFirst (·.id) id (fun r => { r with description }) store.prefixes with
    | some (r, prefixes) => (.ok r, { store with prefixes })
    | none => (.error notFound, store)

/-- The device with the address in the field of its family. -/
def withPrimary (device : Record.Device) (address : Record.Address) :
    Draft.PrimaryAddress → Record.Device
  | .v4 _ => { device with primaryIp4 := some address }
  | .v6 _ => { device with primaryIp := some address }

def setPrimary (store : MemoryStore) (device : Int) (primary : Draft.PrimaryAddress) :
    Except StoreError Record.Device × MemoryStore :=
  if store.failingUpdates then (.error updateFailure, store)
  else
    match store.addresses.find? fun r => r.id = primary.id with
    | none => (.error (refusal "unknown IP address"), store)
    | some address =>
      match modifyFirst (·.id) device (fun r => withPrimary r address primary) store.devices with
      | some (r, devices) => (.ok r, { store with devices })
      | none => (.error notFound, store)

def respond : Responder StoreProtocol MemoryStore
  | .list kind, store => store.list kind fun _ => true
  | .listUndescribed, store => store.list .ipPrefix fun r => r.description.isEmpty
  | .create kind draft, store => store.create kind draft
  | .describe id description, store => store.describe id description
  | .setPrimary device address, store => store.setPrimary device address

end MemoryStore

end AssetSeed
