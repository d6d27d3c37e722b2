import AssetSeed.Proofs.Stage.Run
import AssetSeed.Reconcile.Run

/-!
# The loops of a reconciliation, one turn at a time

## Main definitions

* `deviceDraft`, `createDevice` — a turn of the loop over devices.
* `addressDraft`, `pointDevice`, `bindAddress` — a turn of the loop over addresses that asks for
  one.
* `describePrefix` — a turn of the loop over prefixes.
* `MapSource.hosts` — the hosts that a reconciliation goes over.
-/

namespace AssetSeed.Reconcile

theorem createInterface_eq (host : Host) (device : Int) : createInterface host device =
    match interfaceFor? device host.address with
    | none => pure ()
    | some draft => Stage.attempt .interface (host.name ++ " interface") draft := by
  rw [createInterface]
  cases interfaceFor? device host.address with
  | none => rfl
  | some draft =>
    refine bind_congr fun answer => ?_
    cases answer <;> rfl

theorem interfaceFor?_device {device : Int} {address : HostAddress} {draft : Draft.Interface}
    (h : interfaceFor? device address = some draft) : draft.device = device := by
  cases address <;> cases h <;> rfl

def deviceDraft (inventory : Inventory) (name : String) : Draft.Device where
  name := name
  deviceType := inventory.deviceTypes.lowest?
  role := inventory.roles.lowest?
  site := inventory.sites.lowest?

/-- Asks for the device of a host, and for its interface if it was created. -/
def createDevice (inventory : Inventory) (host : Host) : Stage Unit := do
  match ← Stage.ask (.create .device (deviceDraft inventory host.name)) with
  | .ok device =>
    Stage.noteCreated
    createInterface host device.id
  | .error e => Stage.tolerate host.name e

theorem createDevices_cons (existing : NameIndex) (inventory : Inventory)
    (attempted : List String) (host : Host) (rest : List Host) :
    createDevices existing inventory attempted (host :: rest) =
      if existing.contains host.name || attempted.contains host.name then
        createDevices existing inventory attempted rest
      else
        createDevice inventory host >>= fun _ =>
          createDevices existing inventory (host.name :: attempted) rest := by
  rw [createDevices, createDevice, bind_assoc]
  refine ite_congr rfl (fun _ => rfl) fun _ => bind_congr fun answer => ?_
  cases answer with
  | error e => rfl
  | ok device => exact (bind_assoc _ _ _).symm

theorem assignable?_eq_some_iff {devices : NameIndex} {host : Host} {ip : IpAddress}
    {key : String} {device : Int} : assignable? devices host = some (ip, key, device) ↔
      host.address.ip? = some ip ∧ host.address.hostKey? = some key ∧
        devices.get? host.name = some device := by
  rw [assignable?]
  cases host.address.ip? <;> cases host.address.hostKey? <;> cases devices.get? host.name <;>
    simp

def addressDraft (key : String) (interface : Int) : Draft.Address where
  address := key
  assignedType := "dcim.interface"
  assignedId := interface

/-- Points the device of a host at its primary address. -/
def pointDevice (host : Host) (device : Int) (primary : Draft.PrimaryAddress) : Stage Unit := do
  match ← Stage.ask (.setPrimary device primary) with
  | .ok _ => Stage.noteUpdated
  | .error e => Stage.tolerate (host.name ++ " " ++ primary.field) e

/-- Asks for an address and makes it the primary one of the device. Tells whether the address was
created. -/
def bindAddress (host : Host) (ip : IpAddress) (key : String) (device interface : Int) :
    Stage Bool := do
  match ← Stage.ask (.create .address (addressDraft key interface)) with
  | .ok address =>
    Stage.noteCreated
    pointDevice host device (primaryAddress ip address.id)
    return true
  | .error e =>
    Stage.tolerate key e
    return false

/-- The devices that have been given an address after a turn. -/
def assignedAfter (assigned : List Int) (device : Int) (bound : Bool) : List Int :=
  if bound then device :: assigned else assigned

theorem createAddresses_cons (existing devices : NameIndex) (interfaces : Index Int)
    (assigned : List Int) (host : Host) (rest : List Host) :
    createAddresses existing devices interfaces assigned (host :: rest) =
      match assignable? devices host with
      | none => createAddresses existing devices interfaces assigned rest
      | some (ip, key, device) =>
        if existing.contains key || assigned.contains device then
          Stage.noteSkipped >>= fun _ =>
            createAddresses existing devices interfaces assigned rest
        else
          match interfaces.get? device with
          | none => Stage.noteSkipped >>= fun _ =>
            createAddresses existing devices interfaces assigned rest
          | some interface => bindAddress host ip key device interface >>= fun bound =>
            createAddresses existing devices interfaces (assignedAfter assigned device bound)
              rest := by
  rw [createAddresses]
  cases assignable? devices host with
  | none => rfl
  | some wanted =>
    obtain ⟨ip, key, device⟩ := wanted
    refine ite_congr rfl (fun _ => rfl) fun _ => ?_
    cases interfaces.get? device with
    | none => rfl
    | some interface =>
      simp only [bindAddress, pointDevice, bind_assoc]
      refine bind_congr fun answer => ?_
      cases answer with
      | error e => simp only [bind_assoc, pure_bind]; rfl
      | ok address =>
        simp only [bind_assoc]
        refine bind_congr fun _ => bind_congr fun answer => ?_
        cases answer <;> simp only [pure_bind] <;> rfl

/-- Gives a prefix its description, if it is to get one. -/
def describePrefix (network : Record.IpPrefix) : Stage Unit := do
  match description? network with
  | none => pure ()
  | some description =>
    match ← Stage.ask (.describe network.id description) with
    | .ok _ => Stage.noteUpdated
    | .error _ => Stage.noteSkipped

theorem describePrefixes_cons (network : Record.IpPrefix) (rest : List Record.IpPrefix) :
    describePrefixes (network :: rest) =
      describePrefix network >>= fun _ => describePrefixes rest := by
  rw [describePrefixes, describePrefix]
  cases description? network with
  | none => rfl
  | some description =>
    dsimp only
    rw [bind_assoc]
    refine bind_congr fun answer => ?_
    cases answer <;> rfl

/-- The hosts of the map, if there is one. -/
def MapSource.hosts : Option MapSource → List Host
  | some (.ok (some map)) => map.hosts
  | _ => []

end AssetSeed.Reconcile
