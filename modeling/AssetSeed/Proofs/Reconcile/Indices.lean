import AssetSeed.Proofs.Index
import AssetSeed.Reconcile.Run
import Mathlib.Data.List.Induction

/-!
# The indices that stages read

## Main definitions

* `Kind.LastOf` — the last record of a key.
* `Reconcile.interfacesOf` — the interfaces of a device.
* `Reconcile.foremost?` — the one of them that stands for the device.

## Main statements

* `Stage.mem_keyPairs` — the pairs of a listing are its keys and identifiers.
* `Stage.contains_keyPairs` — the index of a listing has the keys of its records.
* `Stage.mem_entries_keyPairs` — a key stands for its last record.
* `Reconcile.mem_of_mem_interfaceIndex` — the interface of a device is one of the listing.
* `Reconcile.get?_interfaceIndex` — each device has its foremost interface.
* `Reconcile.interfaceIndex_foremost` — which devices have one, and that no other interface counts.
-/

namespace AssetSeed

theorem Stage.mem_keyPairs {kind : Kind} {records : List kind.Record} {key : String} {id : Int} :
    (key, id) ∈ keyPairs kind records ↔
      ∃ r ∈ records, kind.key? r = some key ∧ kind.id r = id := by
  rw [keyPairs, List.mem_filterMap]
  refine exists_congr fun r => and_congr_right fun _ => ?_
  rw [Option.map_eq_some_iff]
  constructor
  · rintro ⟨k, hk, heq⟩
    obtain ⟨rfl, rfl⟩ := Prod.mk.inj heq
    exact ⟨hk, rfl⟩
  · rintro ⟨hk, rfl⟩
    exact ⟨key, hk, rfl⟩

theorem Stage.contains_keyPairs {kind : Kind} {records : List kind.Record} {key : String} :
    (Index.ofList (keyPairs kind records)).contains key = true ↔
      ∃ r ∈ records, kind.key? r = some key := by
  rw [Index.contains_ofList, List.mem_map]
  constructor
  · rintro ⟨⟨_, id⟩, hmem, rfl⟩
    obtain ⟨r, hr, hkey, -⟩ := mem_keyPairs.1 hmem
    exact ⟨r, hr, hkey⟩
  · rintro ⟨r, hr, hkey⟩
    exact ⟨(key, kind.id r), mem_keyPairs.2 ⟨r, hr, hkey, rfl⟩, rfl⟩

/-- The record is the last one of the key. -/
def Kind.LastOf (kind : Kind) (records : List kind.Record) (key : String) (r : kind.Record) :
    Prop :=
  kind.key? r = some key ∧
    ∃ before after, records = before ++ r :: after ∧ ∀ r' ∈ after, kind.key? r' ≠ some key

theorem Stage.mem_entries_keyPairs {kind : Kind} {records : List kind.Record} {key : String}
    {id : Int} : (key, id) ∈ (Index.ofList (keyPairs kind records)).entries ↔
      ∃ r, kind.LastOf records key r ∧ kind.id r = id := by
  have absent (after : List kind.Record) : key ∉ (keyPairs kind after).map Prod.fst ↔
      ∀ r ∈ after, kind.key? r ≠ some key := by
    rw [List.mem_map, not_exists]
    constructor
    · intro h r hr hkey
      exact h (key, kind.id r) ⟨mem_keyPairs.2 ⟨r, hr, hkey, rfl⟩, rfl⟩
    · rintro h ⟨_, id'⟩ ⟨hmem, rfl⟩
      obtain ⟨r, hr, hkey, -⟩ := mem_keyPairs.1 hmem
      exact h r hr hkey
  rw [Index.mem_entries_ofList]
  constructor
  · rintro ⟨before, after, hpairs, hafter⟩
    obtain ⟨front, back, rfl, rfl, hback⟩ := List.filterMap_eq_append_iff.1 hpairs
    obtain ⟨passed, r, rest, rfl, -, hr, rfl⟩ := List.filterMap_eq_cons_iff.1 hback
    obtain ⟨k, hkey, heq⟩ := Option.map_eq_some_iff.1 hr
    obtain ⟨rfl, hid⟩ := Prod.mk.inj heq
    exact ⟨r, ⟨hkey, front ++ passed, rest, (List.append_assoc _ _ _).symm,
      (absent rest).1 hafter⟩, hid⟩
  · rintro ⟨r, ⟨hkey, before, after, rfl, hafter⟩, rfl⟩
    refine ⟨keyPairs kind before, keyPairs kind after, ?_, (absent after).2 hafter⟩
    simp [keyPairs, hkey]

namespace Reconcile

theorem interfaceIndex_append_singleton (before : List Record.Interface) (r : Record.Interface) :
    interfaceIndex (before ++ [r]) =
      match r.device with
      | none => interfaceIndex before
      | some device =>
        if r.name = defaultInterface then (interfaceIndex before).insert device.id r.id
        else (interfaceIndex before).insertIfNew device.id r.id := by
  rw [interfaceIndex, List.foldl_append]
  rfl

theorem mem_of_mem_interfaceIndex {interfaces : List Record.Interface} {device interface : Int}
    (h : (device, interface) ∈ (interfaceIndex interfaces).entries) :
    ∃ r ∈ interfaces, r.id = interface ∧ ∃ owner, r.device = some owner ∧ owner.id = device := by
  -- the induction adds an interface at the end of the listing
  induction interfaces using List.reverseRecOn with
  | nil => simp [interfaceIndex] at h
  | append_singleton before r ih =>
    rw [interfaceIndex_append_singleton] at h
    have earlier : (device, interface) ∈ (interfaceIndex before).entries →
        ∃ r' ∈ before ++ [r], r'.id = interface ∧
          ∃ owner, r'.device = some owner ∧ owner.id = device := by
      intro hmem
      obtain ⟨r', hr', found⟩ := ih hmem
      exact ⟨r', List.mem_append_left _ hr', found⟩
    cases howner : r.device with
    | none =>
      rw [howner] at h
      exact earlier h
    | some owner =>
      have cases_entry : (device, interface) = (owner.id, r.id) ∨
          (device, interface) ∈ (interfaceIndex before).entries := by
        rw [howner] at h
        dsimp only at h
        split at h
        · exact Index.mem_of_mem_insert h
        · exact Index.mem_of_mem_insertIfNew h
      obtain here | hmem := cases_entry
      · obtain ⟨rfl, rfl⟩ := Prod.mk.inj here
        exact ⟨r, by simp, rfl, owner, howner, rfl⟩
      · exact earlier hmem

/-! ## The interfaces of a device -/

/-- The interfaces of a device, in the order of the listing. -/
def interfacesOf (device : Int) (interfaces : List Record.Interface) : List Record.Interface :=
  interfaces.filter fun r => r.device.any (·.id = device)

theorem mem_interfacesOf {device : Int} {interfaces : List Record.Interface}
    {r : Record.Interface} : r ∈ interfacesOf device interfaces ↔
      r ∈ interfaces ∧ ∃ owner, r.device = some owner ∧ owner.id = device := by
  simp [interfacesOf, Option.any_eq_true]

theorem interfacesOf_interfacesOf (device : Int) (interfaces : List Record.Interface) :
    interfacesOf device (interfacesOf device interfaces) = interfacesOf device interfaces := by
  simp [interfacesOf]

theorem interfacesOf_append_singleton {r : Record.Interface} {owner : Record.Reference}
    (owned : r.device = some owner) (device : Int) (before : List Record.Interface) :
    interfacesOf device (before ++ [r]) =
      if owner.id = device then interfacesOf device before ++ [r]
      else interfacesOf device before := by
  by_cases mine : owner.id = device <;> simp [interfacesOf, owned, mine]

/-- Of the interfaces of a device, the last one named `default`, or else the first one. -/
def foremost? (owned : List Record.Interface) : Option Record.Interface :=
  (owned.filter (·.name = defaultInterface)).getLast?.or owned.head?

theorem isSome_foremost?_iff {owned : List Record.Interface} :
    (foremost? owned).isSome ↔ ∃ r, r ∈ owned := by
  cases owned <;> simp [foremost?]

theorem foremost?_append_singleton (owned : List Record.Interface) (r : Record.Interface) :
    foremost? (owned ++ [r]) =
      if r.name = defaultInterface then some r else (foremost? owned).or (some r) := by
  by_cases named : r.name = defaultInterface <;> simp [foremost?, named, List.head?_append]

/-! ## The index -/

/-- Each device has its foremost interface. -/
theorem get?_interfaceIndex (device : Int) (interfaces : List Record.Interface) :
    (interfaceIndex interfaces).get? device =
      (foremost? (interfacesOf device interfaces)).map (·.id) := by
  -- The induction adds an interface at the end of the listing.
  induction interfaces using List.reverseRecOn with
  | nil => rfl
  | append_singleton before r ih =>
    rw [interfaceIndex_append_singleton]
    cases owned : r.device with
    | none => simpa [interfacesOf, owned] using ih
    | some owner =>
      rw [interfacesOf_append_singleton owned]
      by_cases mine : owner.id = device
      · subst mine
        rw [if_pos rfl, foremost?_append_singleton]
        by_cases named : r.name = defaultInterface
        · simp [named, Index.get?_insert]
        · simp only [named, if_false, Index.get?_insertIfNew, if_true, ih]
          cases foremost? (interfacesOf owner.id before) <;> rfl
      · have other : device ≠ owner.id := Ne.symm mine
        rw [if_neg mine, ← ih]
        by_cases named : r.name = defaultInterface
        · simp [named, other, Index.get?_insert]
        · simp [named, other, Index.get?_insertIfNew]

/-- The devices of the index are those that some interface has been listed for. Each is there with
its foremost interface, whatever has been listed of other devices or of none. -/
theorem interfaceIndex_foremost (interfaces : List Record.Interface) (device : Int) :
    (device ∈ (interfaceIndex interfaces).keys ↔
      ∃ r ∈ interfaces, ∃ owner, r.device = some owner ∧ owner.id = device) ∧
    (interfaceIndex interfaces).get? device =
      (foremost? (interfacesOf device interfaces)).map (·.id) ∧
    (interfaceIndex interfaces).get? device =
      (interfaceIndex (interfacesOf device interfaces)).get? device := by
  have entry := get?_interfaceIndex device interfaces
  refine ⟨?_, entry, ?_⟩
  · rw [Index.mem_keys_iff, entry, Option.isSome_map, isSome_foremost?_iff]
    simp only [mem_interfacesOf]
  · rw [entry, get?_interfaceIndex, interfacesOf_interfacesOf]

/-- One that is named `default` counts wherever it is listed, and the last one of several. -/
example : (interfaceIndex [
      { id := 4, name := "eth0", macAddress := none, device := some { id := 1 } },
      { id := 5, name := "default", macAddress := none, device := some { id := 1 } },
      { id := 6, name := "eth0", macAddress := none, device := some { id := 2 } },
      { id := 7, name := "default", macAddress := none, device := some { id := 1 } },
      { id := 8, name := "eth1", macAddress := none, device := some { id := 1 } }]).get? 1 =
    some 7 := by
  decide

end Reconcile

end AssetSeed
