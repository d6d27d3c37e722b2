import AssetSeed.Proofs.Store.Reachable

/-!
# Requests as a whole

A request to a database in memory does all that it is for or nothing at all. One that fails leaves
the collections, the drafts and the count of identifiers as they are. One that succeeds adds one
record, or changes one field of one record, or only looks.

## Main definitions

* `MemoryStore.Same` — nothing that a request is for has been done.
* `MemoryStore.Added`, `MemoryStore.Altered` — one record has been added, or one has been changed.
* `MemoryStore.Whole` — what an answer says of the database after it.

## Main statements

* `MemoryStore.whole_create`, `MemoryStore.whole_describe`, `MemoryStore.whole_setPrimary`,
  `MemoryStore.whole_list` — the requests one by one.
* `MemoryStore.respond_whole` — every request, and how creates are counted.
-/

namespace AssetSeed

/-- The drafts that are kept of what was created. -/
def Kind.kept : (kind : Kind) → kind.Draft → List Draft.Permission × List Draft.Device
  | .permission, d => ([d], [])
  | .device, d => ([], [d])
  | _, _ => ([], [])

/-- How many creates a request is. -/
def StoreRequest.creates : StoreRequest → Nat
  | .create _ _ => 1
  | _ => 0

namespace MemoryStore

variable {store old new : MemoryStore} {kind : Kind}

/-- The collections, the drafts and the identifier given out last are what they were. -/
structure Same (old new : MemoryStore) : Prop where
  records : ∀ kind, new.records kind = old.records kind
  permissionDrafts : new.permissionDrafts = old.permissionDrafts
  deviceDrafts : new.deviceDrafts = old.deviceDrafts
  lastId : new.lastId = old.lastId

/-- The record is the last one of its collection now. It has the next identifier and the key of its
draft, which is kept if drafts of the kind are. -/
structure Added (kind : Kind) (draft : kind.Draft) (record : kind.Record)
    (old new : MemoryStore) : Prop where
  id : kind.id record = old.lastId + 1
  key : kind.key? record = some (kind.draftKey draft)
  records : new.records kind = old.records kind ++ [record]
  others : ∀ other ≠ kind, new.records other = old.records other
  permissionDrafts : new.permissionDrafts = old.permissionDrafts ++ (kind.kept draft).1
  deviceDrafts : new.deviceDrafts = old.deviceDrafts ++ (kind.kept draft).2
  lastId : new.lastId = old.lastId + 1

/-- The one record with the identifier has been changed, and is `record` now. -/
structure Altered (kind : Kind) (id : Int) (change : kind.Record → kind.Record)
    (record : kind.Record) (old new : MemoryStore) : Prop where
  records : ∃ before r after, old.records kind = before ++ r :: after ∧ kind.id r = id ∧
    record = change r ∧ new.records kind = before ++ record :: after ∧
    ∀ other ∈ before ++ after, kind.id other ≠ id
  others : ∀ other ≠ kind, new.records other = old.records other
  permissionDrafts : new.permissionDrafts = old.permissionDrafts
  deviceDrafts : new.deviceDrafts = old.deviceDrafts
  lastId : new.lastId = old.lastId

/-- What an answer says of the database after the request. -/
def Whole (old : MemoryStore) :
    (request : StoreRequest) → Except StoreError request.Reply → MemoryStore → Prop
  | _, .error _, new => Same old new
  | .list kind, .ok records, new => records = old.records kind ∧ Same old new
  | .listUndescribed, .ok records, new =>
    records = old.prefixes.filter (·.description.isEmpty) ∧ Same old new
  | .create kind draft, .ok record, new => Added kind draft record old new
  | .describe id description, .ok record, new =>
    Altered .ipPrefix id (fun r => { r with description }) record old new
  | .setPrimary device (.v4 id), .ok record, new => ∃ address ∈ old.addresses, address.id = id ∧
    Altered .device device (fun r => { r with primaryIp4 := some address }) record old new
  | .setPrimary device (.v6 id), .ok record, new => ∃ address ∈ old.addresses, address.id = id ∧
    Altered .device device (fun r => { r with primaryIp := some address }) record old new

/-! ## The requests -/

theorem Same.refl (store : MemoryStore) : Same store store :=
  ⟨fun _ => rfl, rfl, rfl, rfl⟩

theorem Same.of_outages (outages : List (Kind × Outage)) : Same store { store with outages } :=
  ⟨fun kind => by cases kind <;> rfl, rfl, rfl, rfl⟩

theorem Same.of_counted : Same store store.counted :=
  ⟨fun _ => records_counted, rfl, rfl, rfl⟩

theorem Added.of_grow {draft : kind.Draft} {record : Int → kind.Record}
    (made : store.build kind draft = .ok record) :
    Added kind draft (record (store.lastId + 1)) store (store.grow kind draft record) where
  id := (id_key_of_build made _).1
  key := (id_key_of_build made _).2
  records := records_grow draft record
  others other ne := records_grow_of_ne ne draft record
  permissionDrafts := by cases kind <;> first | rfl | exact (List.append_nil _).symm
  deviceDrafts := by cases kind <;> first | rfl | exact (List.append_nil _).symm
  lastId := lastId_grow draft record

theorem whole_list (store : MemoryStore) (kind : Kind) (wanted : kind.Record → Bool) :
    Same store (store.list kind wanted).2 ∧
      ∀ records, (store.list kind wanted).1 = .ok records →
        records = (store.records kind).filter wanted := by
  obtain ⟨outages, heq⟩ := store.list_snd wanted
  have same : Same store (store.list kind wanted).2 := heq ▸ .of_outages outages
  refine ⟨same, fun records ok => ?_⟩
  rw [← same.records kind]
  exact list_of_ok (Prod.ext ok rfl)

theorem whole_create (draft : kind.Draft) :
    Whole store (.create kind draft) (store.create kind draft).1 (store.create kind draft).2 := by
  obtain ⟨e, heq⟩ | ⟨record, made, heq⟩ := store.create_cases kind draft <;> rw [heq]
  · exact .of_counted
  · exact .of_grow made

/-- Where identifiers differ, the first record with an identifier is the only one. -/
theorem Altered.of_modifyFirst (nodup : (old.ids kind).Nodup) {id : Int}
    {change : kind.Record → kind.Record} {record : kind.Record} {records : List kind.Record}
    (found : modifyFirst kind.id id change (old.records kind) = some (record, records))
    (here : new.records kind = records) (others : ∀ other ≠ kind, new.records other =
      old.records other) (permissionDrafts : new.permissionDrafts = old.permissionDrafts)
    (deviceDrafts : new.deviceDrafts = old.deviceDrafts) (lastId : new.lastId = old.lastId) :
    Altered kind id change record old new := by
  obtain ⟨before, r, after, was, hid, hrecord, is⟩ := exists_of_modifyFirst found
  refine ⟨⟨before, r, after, was, hid, hrecord, ?_, fun other mem same => ?_⟩, others,
    permissionDrafts, deviceDrafts, lastId⟩
  · rw [here, is, hrecord]
  · rw [ids, was, List.map_append, List.map_cons, List.nodup_middle, ← List.map_append] at nodup
    exact (List.nodup_cons.1 nodup).1 (List.mem_map.2 ⟨other, mem, same.trans hid.symm⟩)

theorem whole_describe (wellFormed : WellFormed store) (id : Int) (description : String) :
    Whole store (.describe id description) (store.describe id description).1
      (store.describe id description).2 := by
  rw [describe]
  split
  · exact .refl store
  · split
    · next found =>
      exact .of_modifyFirst (wellFormed.nodup .ipPrefix) found rfl
        (fun _ => records_of_ne_ipPrefix _) rfl rfl rfl
    · exact .refl store

theorem whole_setPrimary (wellFormed : WellFormed store) (device : Int)
    (primary : Draft.PrimaryAddress) :
    Whole store (.setPrimary device primary) (store.setPrimary device primary).1
      (store.setPrimary device primary).2 := by
  rw [setPrimary]
  split
  · exact .refl store
  · split
    · exact .refl store
    · next address haddress =>
      have known : address ∈ store.addresses := List.mem_of_find?_eq_some haddress
      have id : address.id = primary.id := by simpa using List.find?_some haddress
      split
      · next record devices found =>
        have altered : Altered .device device (fun r => withPrimary r address primary) record store
            { store with devices } :=
          .of_modifyFirst (wellFormed.nodup .device) found rfl (fun _ => records_of_ne_device _)
            rfl rfl rfl
        cases primary with
        | v4 _ => exact ⟨address, known, id, altered⟩
        | v6 _ => exact ⟨address, known, id, altered⟩
      · exact .refl store

/-- Creates are counted whatever comes of them, and no other request is. -/
theorem Effect.createCalls {request : StoreRequest} (h : Effect old request new) :
    new.createCalls = old.createCalls + request.creates := by
  cases h with
  | @created kind => cases kind <;> rfl
  | _ => rfl

/-- Whatever state a database is in and whatever it is asked, a request that fails has done nothing,
and one that succeeds has done what it is for and nothing else. Each create is counted. -/
theorem respond_whole (h : store.Reachable) (request : StoreRequest) :
    Whole store request (respond request store).1 (respond request store).2 ∧
      (respond request store).2.createCalls = store.createCalls + request.creates := by
  refine ⟨?_, (effect_respond store request).createCalls⟩
  cases request with
  | list kind =>
    obtain ⟨same, listed⟩ := whole_list store kind fun _ => true
    cases answer : (respond (.list kind) store).1 with
    | error e => exact same
    | ok records => exact ⟨by simpa using listed records answer, same⟩
  | listUndescribed =>
    obtain ⟨same, listed⟩ := whole_list store .ipPrefix fun r => r.description.isEmpty
    cases answer : (respond .listUndescribed store).1 with
    | error e => exact same
    | ok records => exact ⟨listed records answer, same⟩
  | create kind draft => exact whole_create draft
  | describe id description => exact whole_describe h.wellFormed id description
  | setPrimary device primary => exact whole_setPrimary h.wellFormed device primary

/-- Another device is refused for want of a role after its site has been found. The first one is
given its primary address. -/
theorem respond_whole_addressed :
    let store :=
      ((((ofObjectTypes ["dcim.site"]).addDevice "h1").2.addAddress "10.0.0.5/32").2.addSite "HQ").2
    let late := StoreRequest.create .device
      { name := "h2", deviceType := none, role := none, site := some 4 }
    let given := StoreRequest.setPrimary 2 (.v4 3)
    store.Reachable ∧
      (respond late store).1 = .error (refusal "site, role and device_type are required") ∧
      Whole store late (respond late store).1 (respond late store).2 ∧
      (respond late store).2.createCalls = store.createCalls + 1 ∧
      (∃ device, (respond given store).1 = .ok device ∧ device.primaryIp4.isSome) ∧
      Whole store given (respond given store).1 (respond given store).2 ∧
      (respond given store).2.createCalls = store.createCalls := by
  intro store late given
  have reachable : store.Reachable :=
    (((Reachable.ofObjectTypes ["dcim.site"]).addDevice "h1").addAddress "10.0.0.5/32").addSite "HQ"
  obtain ⟨whole, counted⟩ := respond_whole reachable late
  obtain ⟨whole', counted'⟩ := respond_whole reachable given
  exact ⟨reachable, by decide +kernel, whole, counted, ⟨_, rfl, rfl⟩, whole', counted'⟩

end MemoryStore

end AssetSeed
