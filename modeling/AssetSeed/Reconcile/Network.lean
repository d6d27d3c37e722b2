import AssetSeed.NetworkMap
import AssetSeed.Reconcile.Stage

/-!
# The stage of the network map

Prefixes for the segments, then devices with one interface each for the hosts, then the addresses
of the hosts, each bound to an interface of its device and made the primary address of its family.

## Main definitions

* `interfaceIndex` — an interface for each device.
* `ensurePrefixes`, `ensureDevices`, `assignAddresses` — the parts of the stage.
* `importNetworkMap` — the stage.
-/

namespace AssetSeed.Reconcile

/-- The name of the interface that a device is given. -/
def defaultInterface : String :=
  "default"

/-- The interface of each device: one named `default` wins, the last of several, else the first. -/
def interfaceIndex (interfaces : List Record.Interface) : Index Int :=
  interfaces.foldl (fun index interface =>
    match interface.device with
    | none => index
    | some device =>
      if interface.name = defaultInterface then index.insert device.id interface.id
      else index.insertIfNew device.id interface.id) .empty

def ensurePrefixes (segments : List Segment) (inventory : Inventory) : Stage NameIndex :=
  Stage.ensure .ipPrefix fun _ => segments.map fun segment =>
    let cidr := String.ofList segment.network.text
    (cidr, { cidr, site := inventory.sites.lowest?, description := segment.name })

/-- The interface of a device whose host has the address, if it gets one. -/
def interfaceFor? (device : Int) (address : HostAddress) : Option Draft.Interface :=
  let interface (macAddress : Option String) : Draft.Interface :=
    { device, name := defaultInterface, type := "other", macAddress }
  match address with
  | .ip _ => some (interface none)
  | .mac text => some (interface (some text))
  | .unrecognized _ => none

def createInterface (host : Host) (device : Int) : Stage Unit := do
  match interfaceFor? device host.address with
  | none => return
  | some draft =>
    match ← Stage.ask (.create .interface draft) with
    | .ok _ => Stage.noteCreated
    | .error e => Stage.tolerate (host.name ++ " interface") e

/-- Creates a device for each name that is neither in `existing` nor among the names `attempted`. -/
def createDevices (existing : NameIndex) (inventory : Inventory) (attempted : List String) :
    List Host → Stage Unit
  | [] => pure ()
  | host :: rest =>
    if existing.contains host.name || attempted.contains host.name then
      createDevices existing inventory attempted rest
    else do
      let draft : Draft.Device := {
        name := host.name
        deviceType := inventory.deviceTypes.lowest?
        role := inventory.roles.lowest?
        site := inventory.sites.lowest? }
      match ← Stage.ask (.create .device draft) with
      | .ok device =>
        Stage.noteCreated
        createInterface host device.id
      | .error e => Stage.tolerate host.name e
      createDevices existing inventory (host.name :: attempted) rest

def ensureDevices (hosts : List Host) (inventory : Inventory) : Stage NameIndex := do
  let existing ← Stage.readIndex .device
  createDevices existing inventory [] hosts
  Stage.readIndex .device

def primaryAddress (ip : IpAddress) (id : Int) : Draft.PrimaryAddress :=
  match ip with
  | .v4 _ => .v4 id
  | .v6 _ => .v6 id

/-- The host's IP address with its key and its device, if it has both. -/
def assignable? (devices : NameIndex) (host : Host) : Option (IpAddress × String × Int) := do
  let ip ← host.address.ip?
  let key ← host.address.hostKey?
  let device ← devices.get? host.name
  return (ip, key, device)

/-- Creates the address of each host, unless it is in `existing`, or the device is among those
`assigned` an address before, or has no interface. -/
def createAddresses (existing devices : NameIndex) (interfaces : Index Int) (assigned : List Int) :
    List Host → Stage Unit
  | [] => pure ()
  | host :: rest =>
    match assignable? devices host with
    | none => createAddresses existing devices interfaces assigned rest
    | some (ip, key, device) =>
      if existing.contains key || assigned.contains device then do
        Stage.noteSkipped
        createAddresses existing devices interfaces assigned rest
      else
        match interfaces.get? device with
        | none => do
          Stage.noteSkipped
          createAddresses existing devices interfaces assigned rest
        | some interface => do
          let draft : Draft.Address :=
            { address := key, assignedType := "dcim.interface", assignedId := interface }
          match ← Stage.ask (.create .address draft) with
          | .ok address =>
            Stage.noteCreated
            let primary := primaryAddress ip address.id
            match ← Stage.ask (.setPrimary device primary) with
            | .ok _ => Stage.noteUpdated
            | .error e => Stage.tolerate (host.name ++ " " ++ primary.field) e
            createAddresses existing devices interfaces (device :: assigned) rest
          | .error e =>
            Stage.tolerate key e
            createAddresses existing devices interfaces assigned rest

def assignAddresses (hosts : List Host) (devices : NameIndex) (interfaces : Index Int) :
    Stage Unit := do
  let existing ← Stage.readIndex .address
  createAddresses existing devices interfaces [] hosts

def importNetworkMap (map : NetworkMap) (inventory : Inventory) : Stage Unit := do
  let _ ← ensurePrefixes map.segments inventory
  let devices ← ensureDevices map.hosts inventory
  let interfaces ← Stage.demand (.list .interface)
  assignAddresses map.hosts devices (interfaceIndex interfaces)

end AssetSeed.Reconcile
