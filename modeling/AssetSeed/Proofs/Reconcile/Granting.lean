import AssetSeed.Proofs.Reconcile.Distinct
import AssetSeed.Proofs.Reconcile.MapIdempotence

/-!
# Which hosts get an address

An import looks up addresses in the index that it has read before it creates any, and gives a device
one address at most. So no address is created that was there, and hosts of one name do not get two.
Hosts of different names that share an address get it twice, unless the database refuses.

## Main definitions

* `Granted` — the hosts that get an address, among those that a loop goes over.
* `Grants` — what an import may add to the addresses.
* `NetworkMap.Unshared` — no two names share an address.
* `importDialogue` — the import of a network map.

## Main statements

* `Faithful.granted_createAddresses`, `Faithful.grants_importNetworkMap` — the addresses that a loop
  and an import leave.
* `Reconcile.import_grants` — the addresses that an import has created.
* `Reconcile.import_sharedAddress` — an address that is created twice.
-/

namespace AssetSeed

open Reconcile

variable {σ : Type} {respond : Responder StoreProtocol σ} {valid : σ → Prop}
  {holds : σ → (kind : Kind) → List kind.Record}

/-- The address keys of the hosts that have one. -/
def addressKeys (hosts : List Host) : List String :=
  hosts.filterMap (·.address.hostKey?)

@[simp] theorem addressKeys_nil : addressKeys [] = [] := rfl

theorem addressKeys_cons {host : Host} {key : String} (h : host.address.hostKey? = some key)
    (hosts : List Host) : addressKeys (host :: hosts) = key :: addressKeys hosts := by
  simp [addressKeys, h]

/-- The hosts that are given an address, of those that remain. -/
structure Granted (existing devices : NameIndex) (assigned : List Int) (hosts granted : List Host) :
    Prop where
  sublist : granted.Sublist hosts
  names : (granted.map (·.name)).Nodup
  /-- A device is given one address. -/
  unassigned : ∀ host ∈ granted, ∀ device, devices.get? host.name = some device → device ∉ assigned
  missing : ∀ key ∈ addressKeys granted, existing.contains key = false

namespace Granted

variable {existing devices : NameIndex} {assigned : List Int} {host : Host}
  {hosts granted : List Host}

theorem nil : Granted existing devices assigned hosts [] := by
  constructor <;> simp

theorem cons_of_passed (h : Granted existing devices assigned hosts granted) :
    Granted existing devices assigned (host :: hosts) granted :=
  ⟨h.sublist.cons host, h.names, h.unassigned, h.missing⟩

theorem cons_of_bound {ip : IpAddress} {key : String} {device : Int}
    (h : Granted existing devices (device :: assigned) hosts granted)
    (wanted : assignable? devices host = some (ip, key, device))
    (missing : existing.contains key = false) (unassigned : device ∉ assigned) :
    Granted existing devices assigned (host :: hosts) (host :: granted) := by
  obtain ⟨-, hkey, hdevice⟩ := assignable?_eq_some_iff.1 wanted
  constructor
  case sublist => exact h.sublist.cons_cons host
  case names =>
    refine List.nodup_cons.2 ⟨fun hname => ?_, h.names⟩
    -- a host of the same name would be given an address for the same device
    obtain ⟨other, hother, heq⟩ := List.mem_map.1 hname
    exact h.unassigned other hother device (heq ▸ hdevice) List.mem_cons_self
  case unassigned =>
    refine List.forall_mem_cons.2 ⟨fun other hother => ?_, fun other hother device' hdevice' => ?_⟩
    · obtain rfl : device = other := Option.some.inj (hdevice.symm.trans hother)
      exact unassigned
    · exact fun hmem => h.unassigned other hother device' hdevice' (List.mem_cons_of_mem _ hmem)
  case missing =>
    rw [addressKeys_cons hkey]
    exact List.forall_mem_cons.2 ⟨missing, h.missing⟩

end Granted

/-- To the keys `before`, addresses have been added of hosts of different names, none of which was
there. -/
def Grants (hosts : List Host) (before after : List String) : Prop :=
  ∃ granted, granted.Sublist hosts ∧ (granted.map (·.name)).Nodup ∧
    (∀ key ∈ addressKeys granted, key ∉ before) ∧ after = before ++ addressKeys granted

/-- No two names share an address. -/
def NetworkMap.Unshared (map : NetworkMap) : Prop :=
  ∀ host ∈ map.hosts, ∀ other ∈ map.hosts, host.address.hostKey?.isSome →
    host.address.hostKey? = other.address.hostKey? → host.name = other.name

instance (map : NetworkMap) : Decidable map.Unshared :=
  inferInstanceAs (Decidable (∀ host ∈ map.hosts, ∀ other ∈ map.hosts,
    host.address.hostKey?.isSome → host.address.hostKey? = other.address.hostKey? →
      host.name = other.name))

theorem NetworkMap.Unshared.nodup {map : NetworkMap} (h : map.Unshared) {granted : List Host}
    (sublist : granted.Sublist map.hosts) (names : (granted.map (·.name)).Nodup) :
    (addressKeys granted).Nodup := by
  refine List.pairwise_filterMap.2 ?_
  refine (List.pairwise_map.1 names).imp_of_mem fun {host other} hhost hother ne key hkey key' hkey'
    heq => ?_
  subst heq
  refine ne (h host (sublist.subset hhost) other (sublist.subset hother) ?_ ?_)
  · exact Option.isSome_of_eq_some hkey
  · exact Eq.trans hkey hkey'.symm

namespace Faithful

variable {existing devices : NameIndex} {assigned : List Int} {keys : List String} {s : σ}

/-- A turn that asks for an address, and creates it or not. -/
theorem keyed_bindAddress (h : Faithful respond valid holds) (host : Host) (ip : IpAddress)
    (key : String) (device interface : Int) (report : StageReport)
    (held : Keyed valid holds .address (· = keys) s) :
    (bindAddress host ip key device interface).Ensures respond.conduct (fun result _ s =>
      ∃ bound : Bool, Keyed valid holds .address (· = keys ++ if bound then [key] else []) s ∧
        ∀ b, result = .ok b → b = bound) report s := by
  refine Stage.ensures_ask_bind.2 fun answer s' hc => ?_
  have held' : Keyed valid holds .address (· = keys ++ if answer.isOk then [key] else []) s' := by
    refine h.keyed_step held hc fun _ heq => ?_
    rw [heq, Transcript.createdKeys_create]
    rfl
  have spared : respond.conduct.Spares .address
      (Keyed valid holds .address (· = keys ++ if answer.isOk then [key] else [])) :=
    h.spares_keyed _
  cases answer with
  | error e =>
    refine (Stage.Keeps.tolerate key e report s' held').bind (fun _ _ s held => ?_)
      fun _ _ s held => ?_
    · exact ⟨false, held, fun b hb => (Except.ok.inj hb).symm⟩
    · exact ⟨false, held, nofun⟩
  | ok address =>
    refine Stage.ensures_noteCreated_bind.2 ?_
    refine (keeps_pointDevice spared.setPrimary host device _ _ s' held').bind (fun _ _ s held => ?_)
      fun _ _ s held => ?_
    · exact ⟨true, held, fun b hb => (Except.ok.inj hb).symm⟩
    · exact ⟨true, held, nofun⟩

/-- The addresses that a loop has created are those of hosts that were granted one. -/
theorem granted_createAddresses (h : Faithful respond valid holds) (interfaces : Index Int)
    (hosts : List Host) (report : StageReport)
    (held : Keyed valid holds .address (· = keys) s) :
    (createAddresses existing devices interfaces assigned hosts).Ensures respond.conduct
      (fun _ _ s => Keyed valid holds .address (fun after =>
        ∃ granted, Granted existing devices assigned hosts granted ∧
          after = keys ++ addressKeys granted) s) report s := by
  induction hosts generalizing assigned keys report s with
  | nil => exact held.mono fun _ heq => ⟨[], .nil, by simpa using heq⟩
  | cons host rest ih =>
    have passed : ∀ (report : StageReport) (s : σ), Keyed valid holds .address (· = keys) s →
        (createAddresses existing devices interfaces assigned rest).Ensures respond.conduct
          (fun _ _ s => Keyed valid holds .address (fun after =>
            ∃ granted, Granted existing devices assigned (host :: rest) granted ∧
              after = keys ++ addressKeys granted) s) report s := by
      intro report s held
      refine (ih report held).mono fun _ _ s held => held.mono fun after grants => ?_
      obtain ⟨granted, hgranted, heq⟩ := grants
      exact ⟨granted, hgranted.cons_of_passed, heq⟩
    rw [createAddresses_cons]
    split
    · exact passed report s held
    · next ip key device wanted =>
      split
      · exact Stage.ensures_bind.2 (passed _ s held)
      · next hnew =>
        simp only [Bool.or_eq_true, not_or, Bool.not_eq_true, List.contains_iff_mem] at hnew
        have keys_cons := addressKeys_cons (assignable?_eq_some_iff.1 wanted).2.1
        have first : Granted existing devices assigned (host :: rest) [host] :=
          Granted.nil.cons_of_bound wanted hnew.1 hnew.2
        split
        · exact Stage.ensures_bind.2 (passed _ s held)
        · next interface _ =>
          refine (h.keyed_bindAddress host ip key device interface report held).bind ?_ ?_
          · rintro bound report s ⟨_, held, hbound⟩
            obtain rfl := hbound bound rfl
            cases bound with
            | false => exact passed report s (by simpa using held)
            | true =>
              refine (ih report held).mono fun _ _ s held => held.mono fun after grants => ?_
              obtain ⟨granted, hgranted, heq⟩ := grants
              exact ⟨host :: granted, hgranted.cons_of_bound wanted hnew.1 hnew.2,
                by simpa [keys_cons] using heq⟩
          · rintro failure _ s ⟨bound, held, -⟩
            refine held.mono fun after heq => ?_
            cases bound with
            | false => exact ⟨[], .nil, heq⟩
            | true => exact ⟨[host], first, by simpa [keys_cons] using heq⟩

/-- What an import does to the addresses, among them `keys` that were there before. -/
theorem grants_importNetworkMap (h : Faithful respond valid holds) (map : NetworkMap)
    (inventory : Inventory) (report : StageReport)
    (held : Keyed valid holds .address (· = keys) s) :
    (importNetworkMap map inventory).Ensures respond.conduct
      (fun _ _ s => Keyed valid holds .address (Grants map.hosts keys) s) report s := by
  have spared : respond.conduct.Spares .address (Keyed valid holds .address (· = keys)) :=
    h.spares_keyed _
  have ended : ∀ s, Keyed valid holds .address (· = keys) s →
      Keyed valid holds .address (Grants map.hosts keys) s :=
    fun s held => held.mono fun _ heq => ⟨[], by simp, by simp, by simp, by simpa using heq⟩
  have prefixes : (ensurePrefixes map.segments inventory).Keeps respond.conduct
      (Keyed valid holds .address (· = keys)) :=
    .ensure (spared.list .ipPrefix) (spared.create nofun)
  have creates : (ensureDevices map.hosts inventory).Keeps respond.conduct
      (Keyed valid holds .address (· = keys)) :=
    keeps_ensureDevices (spared.list .device)
      (fun _ _ => keeps_createDevice (spared (.create .device _) nofun) (spared.create nofun))
      map.hosts inventory
  refine (prefixes report s held).bind ?_ fun _ _ s held => ended s held
  intro _ report s held
  refine (creates report s held).bind ?_ fun _ _ s held => ended s held
  intro devices report s held
  refine (Stage.Keeps.demand (spared.list .interface) report s held).bind ?_
    fun _ _ s held => ended s held
  intro interfaces report s held
  refine (h.ensures_readIndex report held).bind ?_ fun _ _ s held => ended s held.1
  rintro existing report s ⟨held, listed⟩
  refine (h.granted_createAddresses (interfaceIndex interfaces) map.hosts report held).mono
    fun _ _ _ held' => held'.mono fun after grants => ?_
  obtain ⟨granted, hgranted, heq⟩ := grants
  refine ⟨granted, hgranted.sublist, hgranted.names, fun key hkey hmem => ?_, heq⟩
  have present : existing.contains key = true := (listed existing rfl key).2 (held.keys ▸ hmem)
  simp [hgranted.missing key hkey] at present

end Faithful

namespace Reconcile

/-- The import of a network map, on its own. -/
def importDialogue (map : NetworkMap) (inventory : Inventory) :
    StoreDialogue (Except Failure Unit × StageReport) :=
  (importNetworkMap map inventory).perform .networkMap

/-- An import creates addresses for hosts of different names, and none that was there. Where no two
names share an address, it creates none twice. -/
theorem import_grants (h : Faithful respond valid holds) {s : σ} (start : valid s)
    (map : NetworkMap) (inventory : Inventory) :
    (∀ key ∈ Transcript.createdKeys ((importDialogue map inventory).exchanges respond s) .address,
      key ∉ Kind.address.keys (holds s .address)) ∧
    (∃ granted, granted.Sublist map.hosts ∧ (granted.map (·.name)).Nodup ∧
      Transcript.createdKeys ((importDialogue map inventory).exchanges respond s) .address =
        addressKeys granted) ∧
    (map.Unshared →
      (Transcript.createdKeys ((importDialogue map inventory).exchanges respond s) .address).Nodup ∧
      ((Kind.address.keys (holds s .address)).Nodup → (Kind.address.keys
        (holds ((importDialogue map inventory).run respond s).2 .address)).Nodup)) := by
  have ensures := h.grants_importNetworkMap map inventory { stage := .networkMap } ⟨start, rfl⟩
  have grants : Grants map.hosts (Kind.address.keys (holds s .address)) (Kind.address.keys
    (holds ((importDialogue map inventory).run respond s).2 .address)) := ensures.run.keys
  obtain ⟨granted, sublist, names, missing, after⟩ := grants
  have created : Transcript.createdKeys ((importDialogue map inventory).exchanges respond s)
      .address = addressKeys granted := by
    have absorbed := (h.absorbs_run (importDialogue map inventory) start).keys .address
    exact List.append_cancel_left (absorbed.symm.trans after)
  rw [created, after]
  refine ⟨missing, ⟨granted, sublist, names, rfl⟩, fun unshared => ?_⟩
  have nodup := unshared.nodup sublist names
  exact ⟨nodup, fun before => before.append nodup fun key hbefore hkey =>
    missing key hkey hbefore⟩

/-- Two hosts with an address each, one of them listed twice. -/
def repeatedHost : NetworkMap where
  hosts := [{ name := "h1", address := .classify "10.0.0.5" },
    { name := "h2", address := .classify "10.0.0.6" },
    { name := "h1", address := .classify "10.0.0.5" }]

theorem import_grants_repeatedHost :
    equippedStore.WellFormed ∧ repeatedHost.Unshared ∧
    Transcript.createdKeys ((importDialogue repeatedHost equippedStore.inventory).exchanges
      MemoryStore.respondLeniently equippedStore) .address = ["10.0.0.5/32", "10.0.0.6/32"] ∧
    (Kind.address.keys (((importDialogue repeatedHost equippedStore.inventory).run
      MemoryStore.respondLeniently equippedStore).2.records .address)).Nodup := by
  have wellFormed := equippedStore_reachable.wellFormed
  have unshared : repeatedHost.Unshared := by decide +kernel
  obtain ⟨-, -, distinct⟩ := import_grants MemoryStore.faithful_respondLeniently wellFormed
    repeatedHost equippedStore.inventory
  exact ⟨wellFormed, unshared, by decide +kernel, (distinct unshared).2 List.nodup_nil⟩

/-- Two hosts with one address. -/
def sharedAddress : NetworkMap where
  hosts := [{ name := "h1", address := .classify "10.0.0.5" },
    { name := "h2", address := .classify "10.0.0.5" }]

/-- A database that does not refuse duplicates holds the address twice after the import. -/
theorem import_sharedAddress :
    Faithful MemoryStore.respondLeniently MemoryStore.WellFormed MemoryStore.records ∧
    equippedStore.WellFormed ∧
    (Kind.address.keys (equippedStore.records .address)).Nodup ∧
    Transcript.createdKeys ((importDialogue sharedAddress equippedStore.inventory).exchanges
      MemoryStore.respondLeniently equippedStore) .address = ["10.0.0.5/32", "10.0.0.5/32"] ∧
    ¬(Kind.address.keys (((importDialogue sharedAddress equippedStore.inventory).run
      MemoryStore.respondLeniently equippedStore).2.records .address)).Nodup :=
  ⟨MemoryStore.faithful_respondLeniently, equippedStore_reachable.wellFormed, List.nodup_nil,
    by decide +kernel, by decide +kernel⟩

end Reconcile

end AssetSeed
