import AssetSeed.Proofs.Store.Reachable
import Mathlib.Data.List.Forall2
import Mathlib.Data.List.Perm.Basic

/-!
# Integrity of a database in memory

Whatever has been put into a database and asked of it, an identifier belongs to one record only, of
whatever kind, and what records mention is there. References are copies, made when a record is
created. They stay right because no record is taken away, and none changes its identifier or its
key.

## Main definitions

* `Kind.identifiers`, `Kind.references`, `Kind.addresses` — what a record takes and what it
  mentions.
* `MemoryStore.Holds` — a reference is to a record that is there.
* `MemoryStore.Coherent` — the invariant.
* `MemoryStore.Retains` — records have kept their identifiers and their keys.

## Main statements

* `MemoryStore.Coherent.of_added`, `MemoryStore.Coherent.of_edited` — what one record may do to the
  invariant.
* `MemoryStore.anchored_of_build` — what a new record mentions is there.
* `MemoryStore.Reachable.coherent` — the invariant of reachable states.
-/

namespace AssetSeed

namespace Kind

/-- The identifiers that a record takes: its own and, if it is a prefix, that of its VRF. -/
def identifiers : (kind : Kind) → kind.Record → List Int
  | .ipPrefix, r => r.id :: (r.vrf.map (·.id)).toList
  | kind, r => [kind.id r]

/-- What a record says of other records, with their kinds. -/
def references : (kind : Kind) → kind.Record → List (Kind × Record.Reference)
  | .deviceType, r => r.manufacturer.toList.map (.manufacturer, ·)
  | .ipPrefix, r => r.site.toList.map (.site, ·)
  | .device, r => r.site.toList.map (.site, ·) ++ r.role.toList.map (.role, ·) ++
    r.deviceType.toList.map (.deviceType, ·)
  | .interface, r => r.device.toList.map (.device, ·)
  | _, _ => []

/-- The addresses that a record repeats: the primary ones of a device. -/
def addresses : (kind : Kind) → kind.Record → List Record.Address
  | .device, r => r.primaryIp4.toList ++ r.primaryIp.toList
  | _, _ => []

variable {kind : Kind}

theorem mem_all (kind : Kind) : kind ∈ all := by
  cases kind <;> decide

theorem nodup_all : all.Nodup := by
  decide

theorem head?_identifiers (r : kind.Record) : (kind.identifiers r).head? = some (kind.id r) := by
  cases kind <;> rfl

end Kind

namespace MemoryStore

variable {store old new : MemoryStore} {kind : Kind}

/-- There is a record with the identifier and, if the reference has a name, with that name. -/
def Holds (store : MemoryStore) (kind : Kind) (reference : Record.Reference) : Prop :=
  ∃ r ∈ store.records kind, kind.id r = reference.id ∧
    ∀ name, reference.name = some name → kind.key? r = some name

/-- What the record mentions is there. -/
structure Anchored (store : MemoryStore) (kind : Kind) (r : kind.Record) : Prop where
  references : ∀ reference ∈ kind.references r, store.Holds reference.1 reference.2
  addresses : ∀ address ∈ kind.addresses r, address ∈ store.addresses

/-- All identifiers that records have taken. -/
def identifiers (store : MemoryStore) : List Int :=
  Kind.all.flatMap fun kind => (store.records kind).flatMap kind.identifiers

/-- The permission is what the draft asked for. -/
def Follows (permission : Record.Permission) (draft : Draft.Permission) : Prop :=
  permission.name = draft.name ∧ permission.enabled = draft.enabled

/-- Identifiers are given out once, records mention what is there, and each permission has the
draft that it was created from. -/
structure Coherent (store : MemoryStore) : Prop where
  started : 0 ≤ store.lastId
  distinct : store.identifiers.Nodup
  bounded : ∀ id ∈ store.identifiers, 0 < id ∧ id ≤ store.lastId
  anchored : ∀ kind, ∀ r ∈ store.records kind, store.Anchored kind r
  drafted : List.Forall₂ Follows store.permissions store.permissionDrafts

/-! ## Identifiers -/

theorem identifiers_congr (h : ∀ kind, (new.records kind).flatMap kind.identifiers =
    (old.records kind).flatMap kind.identifiers) : new.identifiers = old.identifiers :=
  congrArg Kind.all.flatMap (funext h)

theorem flatMap_perm_append {α β : Type} {f g : α → List β} {l : List α} {a : α} {extra : List β}
    (nodup : l.Nodup) (mem : a ∈ l) (here : g a = f a ++ extra) (others : ∀ b ≠ a, g b = f b) :
    (l.flatMap g).Perm (l.flatMap f ++ extra) := by
  obtain ⟨before, after, rfl⟩ := List.append_of_mem mem
  rw [List.nodup_middle, List.nodup_cons, List.mem_append, not_or] at nodup
  have same : ∀ part : List α, a ∉ part → part.flatMap g = part.flatMap f := fun part absent =>
    List.flatMap_congr fun b hb => others b (ne_of_mem_of_not_mem hb absent)
  simp only [List.flatMap_append, List.flatMap_cons, here, same before nodup.1.1,
    same after nodup.1.2, List.append_assoc]
  exact (List.perm_append_comm.append_left _).append_left _

/-! ## What records mention -/

/-- Records have kept their identifiers and their keys, and no address has been taken away. -/
structure Retains (old new : MemoryStore) : Prop where
  records : ∀ kind, ∀ r ∈ old.records kind,
    ∃ r' ∈ new.records kind, kind.id r' = kind.id r ∧ kind.key? r' = kind.key? r
  addresses : old.addresses ⊆ new.addresses

namespace Retains

theorem holds (h : Retains old new) {reference : Record.Reference}
    (holds : old.Holds kind reference) : new.Holds kind reference := by
  obtain ⟨r, hr, hid, hname⟩ := holds
  obtain ⟨r', hr', sameId, sameKey⟩ := h.records kind r hr
  exact ⟨r', hr', sameId.trans hid, fun name hreference => sameKey.trans (hname name hreference)⟩

theorem anchored (h : Retains old new) {r : kind.Record} (anchored : old.Anchored kind r) :
    new.Anchored kind r where
  references reference mem := h.holds (anchored.references reference mem)
  addresses address mem := h.addresses (anchored.addresses address mem)

theorem of_records (records : ∀ kind, new.records kind = old.records kind) : Retains old new where
  records kind r hr := ⟨r, (records kind).symm ▸ hr, rfl, rfl⟩
  addresses := by
    have same : new.addresses = old.addresses := records .address
    exact same ▸ List.Subset.refl _

theorem of_added {record : kind.Record} (here : new.records kind = old.records kind ++ [record])
    (others : ∀ other ≠ kind, new.records other = old.records other) : Retains old new := by
  have grown : ∀ other, old.records other ⊆ new.records other := by
    intro other
    by_cases same : other = kind
    · subst same
      exact here ▸ List.subset_append_left _ _
    · exact others other same ▸ List.Subset.refl _
  exact ⟨fun other r hr => ⟨r, grown other hr, rfl, rfl⟩, grown .address⟩

theorem of_edited {before after : List kind.Record} {r r' : kind.Record}
    (was : old.records kind = before ++ r :: after) (is : new.records kind = before ++ r' :: after)
    (others : ∀ other ≠ kind, new.records other = old.records other)
    (id : kind.id r' = kind.id r) (key : kind.key? r' = kind.key? r)
    (addresses : new.addresses = old.addresses) : Retains old new := by
  refine ⟨fun other x hx => ?_, addresses ▸ List.Subset.refl _⟩
  by_cases same : other = kind
  · subst same
    rw [was, List.mem_append, List.mem_cons] at hx
    rw [is]
    obtain hx | rfl | hx := hx
    · exact ⟨x, List.mem_append_left _ hx, rfl, rfl⟩
    · exact ⟨r', by simp, id, key⟩
    · exact ⟨x, by simp [hx], rfl, rfl⟩
  · exact ⟨x, others other same ▸ hx, rfl, rfl⟩

end Retains

/-- A mention is of a record that is there. -/
theorem holds_of_mention? {id : Option Int} {reference : Record.Reference}
    (h : store.mention? kind id = some reference) : store.Holds kind reference := by
  obtain ⟨id, -, h⟩ := Option.bind_eq_some_iff.1 h
  obtain ⟨r, found, rfl⟩ := Option.map_eq_some_iff.1 h
  refine ⟨r, List.mem_of_find?_eq_some found, rfl, fun name hname => ?_⟩
  cases hkey : kind.key? r with
  | none => simp [Record.Reference.ofName, hkey] at hname
  | some key => grind [Record.Reference.ofName]

/-- What a new record mentions is there. -/
theorem anchored_of_build {draft : kind.Draft} {record : Int → kind.Record}
    (made : store.build kind draft = .ok record) (id : Int) :
    store.Anchored kind (record id) := by
  cases kind with
  | objectType => exact draft.elim
  | deviceType =>
    rw [build] at made
    split at made
    · next manufacturer hmanufacturer =>
      cases made
      exact ⟨by simpa [Kind.references] using holds_of_mention? hmanufacturer, List.forall_mem_nil _⟩
    · cases made
  | ipPrefix =>
    cases made
    refine ⟨?_, List.forall_mem_nil _⟩
    simpa [Kind.references] using fun reference hreference => holds_of_mention? hreference
  | device =>
    rw [build] at made
    split at made
    · next site role deviceType hsite hrole hdeviceType =>
      cases made
      refine ⟨?_, List.forall_mem_nil _⟩
      simpa [Kind.references] using
        ⟨holds_of_mention? hsite, holds_of_mention? hrole, holds_of_mention? hdeviceType⟩
    · cases made
  | interface =>
    rw [build] at made
    split at made
    · next device hdevice =>
      cases made
      have holds : store.Holds .device { id := device.id, name := device.name } :=
        ⟨device, List.mem_of_find?_eq_some hdevice, rfl, fun _ hname => hname⟩
      exact ⟨by simpa [Kind.references] using holds, List.forall_mem_nil _⟩
    · cases made
  | _ => exact ⟨List.forall_mem_nil _, List.forall_mem_nil _⟩

/-! ## The invariant -/

namespace Coherent

/-- Nothing that the invariant is about has changed. -/
theorem of_unchanged (h : Coherent old) (records : ∀ kind, new.records kind = old.records kind)
    (lastId : new.lastId = old.lastId) (drafts : new.permissionDrafts = old.permissionDrafts) :
    Coherent new := by
  have identifiers : new.identifiers = old.identifiers :=
    identifiers_congr fun kind => by rw [records kind]
  refine ⟨lastId ▸ h.started, identifiers ▸ h.distinct, identifiers ▸ lastId ▸ h.bounded,
    fun kind r hr => ?_, ?_⟩
  · exact (Retains.of_records records).anchored (h.anchored kind r (records kind ▸ hr))
  · have permissions : new.permissions = old.permissions := records .permission
    exact permissions ▸ drafts ▸ h.drafted

/-- A record has been added that takes new identifiers and mentions what is there. -/
theorem of_added (h : Coherent old) {record : kind.Record}
    (here : new.records kind = old.records kind ++ [record])
    (others : ∀ other ≠ kind, new.records other = old.records other)
    (nodup : (kind.identifiers record).Nodup)
    (fresh : ∀ id ∈ kind.identifiers record, old.lastId < id ∧ id ≤ new.lastId)
    (lastId : old.lastId ≤ new.lastId) (anchored : old.Anchored kind record)
    (drafted : List.Forall₂ Follows new.permissions new.permissionDrafts) : Coherent new := by
  have taken : new.identifiers.Perm (old.identifiers ++ kind.identifiers record) := by
    refine flatMap_perm_append Kind.nodup_all (Kind.mem_all kind) ?_ fun other ne => ?_
    · simp [here]
    · rw [others other ne]
  have started := h.started
  constructor
  case started => omega
  case distinct =>
    refine taken.nodup_iff.2 (List.nodup_append.2 ⟨h.distinct, nodup, fun id hid id' hid' => ?_⟩)
    have := (h.bounded id hid).2
    have := (fresh id' hid').1
    omega
  case bounded =>
    intro id hid
    obtain hid | hid := List.mem_append.1 (taken.mem_iff.1 hid)
    · have := h.bounded id hid
      omega
    · have := fresh id hid
      omega
  case anchored =>
    intro other r hr
    refine (Retains.of_added here others).anchored ?_
    by_cases same : other = kind
    · subst same
      obtain hr | hr := List.mem_append.1 (here ▸ hr)
      · exact h.anchored other r hr
      · exact List.mem_singleton.1 hr ▸ anchored
    · exact h.anchored other r (others other same ▸ hr)
  case drafted => exact drafted

/-- A record has been changed in what neither tells it from others nor is mentioned by others. -/
theorem of_edited (h : Coherent old) (kind : Kind) {before after : List kind.Record}
    {r r' : kind.Record} (was : old.records kind = before ++ r :: after)
    (is : new.records kind = before ++ r' :: after)
    (others : ∀ other ≠ kind, new.records other = old.records other)
    (identifiers : kind.identifiers r' = kind.identifiers r) (key : kind.key? r' = kind.key? r)
    (anchored : old.Anchored kind r') (addresses : new.addresses = old.addresses)
    (lastId : new.lastId = old.lastId) (permissions : new.permissions = old.permissions)
    (drafts : new.permissionDrafts = old.permissionDrafts) : Coherent new := by
  have id : kind.id r' = kind.id r := by
    have heads := congrArg List.head? identifiers
    simpa [Kind.head?_identifiers] using heads
  have taken : new.identifiers = old.identifiers := by
    refine identifiers_congr fun other => ?_
    by_cases same : other = kind
    · subst same
      simp [was, is, identifiers]
    · rw [others other same]
  have retains : Retains old new := .of_edited was is others id key addresses
  refine ⟨lastId ▸ h.started, taken ▸ h.distinct, taken ▸ lastId ▸ h.bounded,
    fun other x hx => retains.anchored ?_, permissions ▸ drafts ▸ h.drafted⟩
  by_cases same : other = kind
  · subst same
    have old : x ∈ old.records other ∨ x = r' := by
      rw [was]
      rw [is] at hx
      grind
    obtain hx | rfl := old
    · exact h.anchored other x hx
    · exact anchored
  · exact h.anchored other x (others other same ▸ hx)

/-- A record has been put in place that mentions nothing. -/
theorem of_append (h : Coherent old) (kind : Kind) {record : kind.Record}
    (appended : new = { old with lastId := old.lastId + 1 }.setRecords kind
      (old.records kind ++ [record]))
    (identifiers : kind.identifiers record = [old.lastId + 1])
    (references : kind.references record = []) (addresses : kind.addresses record = [])
    (permissions : new.permissions = old.permissions)
    (drafts : new.permissionDrafts = old.permissionDrafts) : Coherent new := by
  have lastId : new.lastId = old.lastId + 1 := appended ▸ lastId_setRecords _
  have fresh : ∀ id ∈ kind.identifiers record, old.lastId < id ∧ id ≤ new.lastId := by
    simp only [identifiers, List.mem_singleton, forall_eq]
    omega
  refine h.of_added (appended ▸ records_setRecords _) (fun other ne => ?_)
    (identifiers ▸ List.nodup_singleton _) fresh (by omega)
    ⟨by simp [references], by simp [addresses]⟩ (permissions ▸ drafts ▸ h.drafted)
  rw [appended, records_setRecords_of_ne ne]
  cases other <;> rfl

theorem counted (h : Coherent store) : Coherent store.counted :=
  h.of_unchanged (fun _ => records_counted) rfl rfl

theorem grow (h : Coherent store) {draft : kind.Draft} {record : Int → kind.Record}
    (made : store.build kind draft = .ok record) : Coherent (store.grow kind draft record) := by
  have identifiers : kind.identifiers (record (store.lastId + 1)) = [store.lastId + 1] := by
    have id := (id_key_of_build made (store.lastId + 1)).1
    cases kind with
    | ipPrefix =>
      cases made
      rfl
    | _ => exact congrArg (fun id => [id]) id
  have lastId : (store.grow kind draft record).lastId = store.lastId + 1 := lastId_grow draft record
  refine h.of_added (records_grow draft record) (fun other ne => records_grow_of_ne ne draft record)
    ?_ ?_ ?_ (anchored_of_build made _) ?_
  · exact identifiers ▸ List.nodup_singleton _
  · simp only [identifiers, List.mem_singleton, forall_eq]
    omega
  · omega
  · cases kind with
    | permission =>
      cases made
      exact List.rel_append h.drafted (.cons ⟨rfl, rfl⟩ .nil)
    | _ => exact h.drafted

theorem describe (h : Coherent store) (id : Int) (description : String) :
    Coherent (store.describe id description).2 := by
  obtain heq | ⟨before, r, after, hprefixes, -, heq⟩ := store.describe_cases id description
  · rw [heq]
    exact h
  · rw [heq]
    have anchored := h.anchored .ipPrefix r (show r ∈ store.prefixes by simp [hprefixes])
    exact h.of_edited .ipPrefix hprefixes rfl (fun _ => records_of_ne_ipPrefix _) rfl rfl
      ⟨anchored.references, anchored.addresses⟩ rfl rfl rfl rfl

theorem setPrimary (h : Coherent store) (device : Int) (primary : Draft.PrimaryAddress) :
    Coherent (store.setPrimary device primary).2 := by
  rcases store.setPrimary_cases device primary with
    heq | ⟨address, haddress, before, r, after, hdevices, -, heq⟩
  · rw [heq]
    exact h
  · rw [heq]
    have anchored := h.anchored .device r (show r ∈ store.devices by simp [hdevices])
    have same : Kind.device.references (withPrimary r address primary) =
        Kind.device.references r := by
      cases primary <;> rfl
    have pointed : ∀ a ∈ Kind.device.addresses (withPrimary r address primary),
        a ∈ store.addresses := by
      intro a ha
      have cases : a = address ∨ a ∈ Kind.device.addresses r := by
        cases primary <;> grind [Kind.addresses, withPrimary]
      obtain rfl | ha := cases
      · exact haddress
      · exact anchored.addresses a ha
    refine h.of_edited .device hdevices rfl (fun _ => records_of_ne_device _) ?_ ?_
      ⟨same ▸ anchored.references, pointed⟩ rfl rfl rfl rfl
    · cases primary <;> rfl
    · cases primary <;> rfl

theorem list (h : Coherent store) (kind : Kind) (wanted : kind.Record → Bool) :
    Coherent (store.list kind wanted).2 := by
  obtain ⟨outages, heq⟩ := store.list_snd wanted
  rw [heq]
  exact h.of_unchanged (fun kind => by cases kind <;> rfl) rfl rfl

theorem respond (h : Coherent store) (request : StoreRequest) :
    Coherent (respond request store).2 := by
  cases request with
  | list kind => exact h.list kind _
  | listUndescribed => exact h.list .ipPrefix _
  | create kind draft =>
    change Coherent (store.create kind draft).2
    obtain ⟨e, heq⟩ | ⟨record, made, heq⟩ := store.create_cases kind draft <;> rw [heq]
    · exact h.counted
    · exact h.grow made
  | describe id description => exact h.describe id description
  | setPrimary device address => exact h.setPrimary device address

theorem ofObjectTypes (names : List String) : Coherent (ofObjectTypes names) := by
  suffices ∀ store : MemoryStore, Coherent store →
      Coherent (names.foldl MemoryStore.addObjectType store) by
    refine this {} ⟨le_rfl, List.nodup_nil, nofun, fun kind r hr => ?_, .nil⟩
    cases kind <;> cases hr
  induction names with
  | nil => exact fun store h => h
  | cons name rest ih =>
    exact fun store h => ih _ (h.of_append .objectType rfl rfl rfl rfl rfl rfl)

/-- A prefix has been put in place, and its VRF has taken the identifier after it. -/
theorem addPrefix (h : Coherent store) (cidr description : String) (vrf : Option String) :
    Coherent (store.addPrefix cidr description vrf).2 := by
  have lastId : (store.addPrefix cidr description vrf).2.lastId =
      store.lastId + 1 + if vrf.isSome then 1 else 0 := rfl
  have here : (store.addPrefix cidr description vrf).2.records .ipPrefix =
      store.records .ipPrefix ++ [
        { id := store.lastId + 1, cidr, description, site := none,
          vrf := vrf.map fun name => Record.Reference.ofName (store.lastId + 1 + 1) name }] := rfl
  refine h.of_added here (fun other ne => ?_) ?_ ?_ ?_ ⟨nofun, nofun⟩ h.drafted
  · cases other <;> first | rfl | exact absurd rfl ne
  · cases vrf with
    | none => exact List.nodup_singleton _
    | some name =>
      refine List.nodup_cons.2 ⟨fun mem => ?_, List.nodup_singleton _⟩
      have next : store.lastId + 1 = store.lastId + 1 + 1 := List.mem_singleton.1 mem
      omega
  · intro id hid
    have taken : id = store.lastId + 1 ∨ vrf.isSome ∧ id = store.lastId + 1 + 1 := by
      cases vrf <;> simpa [Kind.identifiers, Record.Reference.ofName] using hid
    obtain rfl | ⟨some, rfl⟩ := taken
    · rw [lastId]
      split <;> omega
    · rw [lastId, if_pos some]
      omega
  · rw [lastId]
    omega

end Coherent

/-- Whatever has been put into a database and asked of it, its identifiers differ, what its records
mention is there, and its permissions have their drafts. -/
theorem Reachable.coherent {store : MemoryStore} (h : Reachable store) : Coherent store := by
  induction h with
  | ofObjectTypes names => exact .ofObjectTypes names
  | addSite _ _ ih => exact ih.of_append .site rfl rfl rfl rfl rfl rfl
  | addManufacturer _ _ ih => exact ih.of_append .manufacturer rfl rfl rfl rfl rfl rfl
  | addRole _ _ ih => exact ih.of_append .role rfl rfl rfl rfl rfl rfl
  | addDeviceType _ _ ih => exact ih.of_append .deviceType rfl rfl rfl rfl rfl rfl
  | addDevice _ _ ih => exact ih.of_append .device rfl rfl rfl rfl rfl rfl
  | addPrefix _ cidr description vrf ih => exact ih.addPrefix cidr description vrf
  | addAddress _ _ ih => exact ih.of_append .address rfl rfl rfl rfl rfl rfl
  | refuseName _ _ ih => exact ih.of_unchanged (fun kind => by cases kind <;> rfl) rfl rfl
  | setOutage _ _ _ ih => exact ih.of_unchanged (fun kind => by cases kind <;> rfl) rfl rfl
  | failUpdates _ ih => exact ih.of_unchanged (fun kind => by cases kind <;> rfl) rfl rfl
  | respond _ request ih => exact ih.respond request

/-- A device with all that it needs and an address of its own, each asked for after the other. -/
def furnishing : List StoreRequest := [
  .create .manufacturer { name := "Acme", slug := "acme" },
  .create .deviceType { manufacturer := some 6, model := "Model-X", slug := "model-x" },
  .create .device { name := "h1", deviceType := some 7, role := some 3, site := some 2 },
  .create .interface { device := 8, name := "default", type := "other", macAddress := none },
  .create .address
    { address := "10.0.0.5/32", assignedType := "dcim.interface", assignedId := 9 },
  .setPrimary 8 (.v4 10),
  .create .permission
    { name := "staff", enabled := true, groups := [], actions := [], objectTypes := [] },
  .describe 4 "office"]

def furnishedStore : MemoryStore :=
  furnishing.foldl (fun store request => (respond request store).2)
    ((((ofObjectTypes ["dcim.site"]).addSite "HQ").2.addRole "Sensor").2.addPrefix
      "10.0.0.0/24" "" (some "office")).2

theorem furnishedStore_reachable : furnishedStore.Reachable :=
  List.foldlRecOn furnishing _
    ((((Reachable.ofObjectTypes ["dcim.site"]).addSite "HQ").addRole "Sensor").addPrefix
      "10.0.0.0/24" "" (some "office")) fun _ h request _ => h.respond request

theorem furnishedStore_coherent : furnishedStore.Reachable ∧
    (∃ device ∈ furnishedStore.devices, device.primaryIp4.isSome ∧ device.site.isSome) ∧
    Coherent furnishedStore :=
  ⟨furnishedStore_reachable, by decide +kernel, Reachable.coherent furnishedStore_reachable⟩

end MemoryStore

end AssetSeed
