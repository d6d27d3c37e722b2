import AssetSeed.Proofs.Dialogue.Run
import AssetSeed.Proofs.Store.Requests
import Mathlib.Data.List.Nodup
import Mathlib.Data.Int.Order.Basic

/-!
# The states of a database in memory

## Main definitions

* `MemoryStore.Reachable` — the states that come about by putting records in place, setting faults
  and answering requests.
* `MemoryStore.WellFormed` — identifiers are given out once.

## Main statements

* `MemoryStore.Reachable.wellFormed` — the invariant of reachable states.
* `MemoryStore.Reachable.run` — a dialogue leads from reachable states to reachable states.
-/

namespace AssetSeed.MemoryStore

inductive Reachable : MemoryStore → Prop where
  | ofObjectTypes (names : List String) : Reachable (ofObjectTypes names)
  | addSite {store : MemoryStore} (h : Reachable store) (name : String) :
    Reachable (store.addSite name).2
  | addManufacturer {store : MemoryStore} (h : Reachable store) (name : String) :
    Reachable (store.addManufacturer name).2
  | addRole {store : MemoryStore} (h : Reachable store) (name : String) :
    Reachable (store.addRole name).2
  | addDeviceType {store : MemoryStore} (h : Reachable store) (model : String) :
    Reachable (store.addDeviceType model).2
  | addDevice {store : MemoryStore} (h : Reachable store) (name : String) :
    Reachable (store.addDevice name).2
  | addPrefix {store : MemoryStore} (h : Reachable store) (cidr description : String)
    (vrf : Option String) : Reachable (store.addPrefix cidr description vrf).2
  | addAddress {store : MemoryStore} (h : Reachable store) (address : String) :
    Reachable (store.addAddress address).2
  | refuseName {store : MemoryStore} (h : Reachable store) (name : String) :
    Reachable (store.refuseName name)
  | setOutage {store : MemoryStore} (h : Reachable store) (kind : Kind) (outage : Outage) :
    Reachable (store.setOutage kind outage)
  | failUpdates {store : MemoryStore} (h : Reachable store) : Reachable store.failUpdates
  | respond {store : MemoryStore} (h : Reachable store) (request : StoreRequest) :
    Reachable (respond request store).2

theorem Reachable.run {α : Type} {store : MemoryStore} (h : Reachable store)
    (d : StoreDialogue α) : Reachable (d.run MemoryStore.respond store).2 := by
  induction d generalizing store with
  | done a => exact h
  | ask request next ih => exact ih _ (h.respond request)

/-! ## Identifiers -/

/-- The identifiers in a collection, in order. -/
def ids (store : MemoryStore) (kind : Kind) : List Int :=
  (store.records kind).map kind.id

/-- Within a collection identifiers differ, and none is above the one given out last. -/
structure WellFormed (store : MemoryStore) : Prop where
  nodup : ∀ kind, (store.ids kind).Nodup
  le_lastId : ∀ kind, ∀ id ∈ store.ids kind, id ≤ store.lastId

namespace WellFormed

variable {store store' : MemoryStore}

/-- Whatever leaves the identifiers as they are. -/
theorem of_ids (h : WellFormed store) (ids : ∀ kind, store'.ids kind = store.ids kind)
    (le : store.lastId ≤ store'.lastId) : WellFormed store' where
  nodup kind := by simpa only [ids] using h.nodup kind
  le_lastId kind id hid := by
    rw [ids] at hid
    have := h.le_lastId kind id hid
    omega

/-- Whatever adds a record with the next identifier to one collection. -/
theorem of_concat (h : WellFormed store) (kind : Kind)
    (ids : store'.ids kind = store.ids kind ++ [store.lastId + 1])
    (others : ∀ other ≠ kind, store'.ids other = store.ids other)
    (lastId : store.lastId + 1 ≤ store'.lastId) : WellFormed store' := by
  have new : store.lastId + 1 ∉ store.ids kind := by
    intro hmem
    have := h.le_lastId kind _ hmem
    omega
  constructor
  · intro other
    by_cases hkind : other = kind
    · subst hkind
      rw [ids]
      exact List.nodup_append_comm.1 (List.nodup_cons.2 ⟨new, h.nodup other⟩)
    · simpa only [others other hkind] using h.nodup other
  · intro other id hid
    by_cases hkind : other = kind
    · subst hkind
      simp only [ids, List.mem_append, List.mem_singleton] at hid
      obtain hid | rfl := hid
      · have := h.le_lastId other id hid
        omega
      · exact lastId
    · rw [others other hkind] at hid
      have := h.le_lastId other id hid
      omega

theorem of_append (h : WellFormed store) (kind : Kind) {record : kind.Record}
    (appended : store' = { store with lastId := store.lastId + 1 }.setRecords kind
      (store.records kind ++ [record]))
    (id : kind.id record = store.lastId + 1) : WellFormed store' := by
  subst appended
  refine h.of_concat kind ?_ (fun other hne => ?_) ?_
  · simp [MemoryStore.ids, id]
  · rw [ids, records_setRecords_of_ne hne]
    cases other <;> rfl
  · simp

theorem counted (h : WellFormed store) : WellFormed store.counted :=
  h.of_ids (fun other => by simp [ids]) (by simp)

theorem grow (h : WellFormed store) {kind : Kind} {draft : kind.Draft}
    {record : Int → kind.Record} (made : store.build kind draft = .ok record) :
    WellFormed (store.grow kind draft record) := by
  refine h.of_concat kind ?_ (fun other hne => ?_) (le_of_eq (lastId_grow draft record).symm)
  · simp [ids, (id_key_of_build made _).1]
  · simp [ids, records_grow_of_ne hne]

theorem create (h : WellFormed store) (kind : Kind) (draft : kind.Draft) :
    WellFormed (store.create kind draft).2 := by
  obtain ⟨e, heq⟩ | ⟨record, hbuild, heq⟩ := store.create_cases kind draft
  · rw [heq]
    exact h.counted
  · rw [heq]
    exact h.grow hbuild

theorem describe (h : WellFormed store) (id : Int) (description : String) :
    WellFormed (store.describe id description).2 := by
  obtain heq | ⟨before, r, after, hprefixes, -, heq⟩ := store.describe_cases id description
  · rw [heq]
    exact h
  · rw [heq]
    refine h.of_ids (fun kind => ?_) le_rfl
    cases kind with
    | ipPrefix => simp [ids, records, hprefixes, Kind.id]
    | _ => rfl

theorem setPrimary (h : WellFormed store) (device : Int) (primary : Draft.PrimaryAddress) :
    WellFormed (store.setPrimary device primary).2 := by
  rcases store.setPrimary_cases device primary with
    heq | ⟨address, -, before, r, after, hdevices, -, heq⟩
  · rw [heq]
    exact h
  · rw [heq]
    refine h.of_ids (fun kind => ?_) le_rfl
    cases kind with
    | device => cases primary <;> simp [ids, records, hdevices, Kind.id, withPrimary]
    | _ => rfl

theorem list (h : WellFormed store) (kind : Kind) (wanted : kind.Record → Bool) :
    WellFormed (store.list kind wanted).2 := by
  obtain ⟨outages, heq⟩ := store.list_snd wanted
  rw [heq]
  exact h.of_ids (fun kind => by cases kind <;> rfl) le_rfl

theorem respond (h : WellFormed store) (request : StoreRequest) :
    WellFormed (respond request store).2 := by
  cases request with
  | list kind => exact h.list kind _
  | listUndescribed => exact h.list .ipPrefix _
  | create kind draft => exact h.create kind draft
  | describe id description => exact h.describe id description
  | setPrimary device address => exact h.setPrimary device address

theorem ofObjectTypes (names : List String) : WellFormed (ofObjectTypes names) := by
  suffices ∀ store : MemoryStore, WellFormed store →
      WellFormed (names.foldl MemoryStore.addObjectType store) by
    refine this {} ⟨fun kind => ?_, fun kind id hid => ?_⟩
    · cases kind <;> exact List.nodup_nil
    · cases kind <;> cases hid
  induction names with
  | nil => exact fun store h => h
  | cons name rest ih => exact fun store h => ih _ (h.of_append .objectType rfl rfl)

end WellFormed

theorem Reachable.wellFormed {store : MemoryStore} (h : Reachable store) : WellFormed store := by
  induction h with
  | ofObjectTypes names => exact .ofObjectTypes names
  | addSite _ _ ih => exact ih.of_append .site rfl rfl
  | addManufacturer _ _ ih => exact ih.of_append .manufacturer rfl rfl
  | addRole _ _ ih => exact ih.of_append .role rfl rfl
  | addDeviceType _ _ ih => exact ih.of_append .deviceType rfl rfl
  | addDevice _ _ ih => exact ih.of_append .device rfl rfl
  | addPrefix _ cidr description vrf ih =>
    -- the VRF takes an identifier too, after that of the prefix
    refine ih.of_concat .ipPrefix ?_ (fun other hne => ?_) ?_
    · exact List.map_append
    · cases other <;> first | rfl | exact absurd rfl hne
    · change _ ≤ _ + 1 + _
      omega
  | addAddress _ _ ih => exact ih.of_append .address rfl rfl
  | refuseName _ _ ih => exact ih.of_ids (fun kind => by cases kind <;> rfl) le_rfl
  | setOutage _ _ _ ih => exact ih.of_ids (fun kind => by cases kind <;> rfl) le_rfl
  | failUpdates _ ih => exact ih.of_ids (fun kind => by cases kind <;> rfl) le_rfl
  | respond _ request ih => exact ih.respond request

end AssetSeed.MemoryStore
