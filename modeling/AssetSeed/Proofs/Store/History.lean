import AssetSeed.NetworkMap
import AssetSeed.Proofs.Store.Reachable
import Mathlib.Data.List.Forall2

/-!
# What becomes of records

Two edits of records are allowed: a prefix without description may be given the label of its VRF,
and a device with the name of a host that has an IP address may be given primary addresses.

## Main definitions

* `KeptOrGiven` — a primary address is kept, or exchanged for an address of the database.
* `Kind.Edited` — a record and what the allowed edits may have made of it.
* `MemoryStore.Continues` — every collection goes on from an earlier one: nothing is lost.
* `MemoryStore.Allowed` — a request that does no more than these edits.

## Main statements

* `MemoryStore.Continues.trans` — histories compose.
* `MemoryStore.Allowed.continues` — the step: an allowed request leads on.
-/

namespace AssetSeed

/-- A primary address is what it was, or is one of the addresses. -/
def KeptOrGiven (addresses : List Record.Address) (old new : Option Record.Address) : Prop :=
  new = old ∨ ∃ address ∈ addresses, new = some address

/-- What may have become of a record when the hosts were imported and the database has the
addresses. -/
def Kind.Edited (hosts : List Host) (addresses : List Record.Address) :
    (kind : Kind) → kind.Record → kind.Record → Prop
  | .ipPrefix, old, new => new = old ∨
    old.description.isEmpty ∧ ∃ vrf, old.vrf = some vrf ∧
      new = { old with description := vrf.label }
  | .device, old, new => new = old ∨
    (∃ host ∈ hosts, host.address.ip?.isSome ∧ old.name = some host.name) ∧
      ∃ primaryIp4 primaryIp, KeptOrGiven addresses old.primaryIp4 primaryIp4 ∧
        KeptOrGiven addresses old.primaryIp primaryIp ∧
        new = { old with primaryIp4, primaryIp }
  | _, old, new => new = old

namespace KeptOrGiven

variable {addresses addresses' : List Record.Address} {old mid new : Option Record.Address}

theorem mono (more : addresses ⊆ addresses') (h : KeptOrGiven addresses old new) :
    KeptOrGiven addresses' old new :=
  h.imp_right fun ⟨address, mem, given⟩ => ⟨address, more mem, given⟩

theorem trans (first : KeptOrGiven addresses old mid) (second : KeptOrGiven addresses mid new) :
    KeptOrGiven addresses old new := by
  obtain rfl | given := second
  · exact first
  · exact .inr given

end KeptOrGiven

namespace Kind.Edited

variable {hosts : List Host} {addresses addresses' : List Record.Address} {kind : Kind}
  {old mid new : kind.Record}

theorem refl (r : kind.Record) : kind.Edited hosts addresses r r := by
  cases kind <;> first | exact .inl rfl | exact rfl

theorem mono (more : addresses ⊆ addresses') (h : kind.Edited hosts addresses old new) :
    kind.Edited hosts addresses' old new := by
  cases kind with
  | device =>
    obtain rfl | ⟨named, ip4, ip, given4, given, rfl⟩ := h
    · exact .inl rfl
    · exact .inr ⟨named, ip4, ip, given4.mono more, given.mono more, rfl⟩
  | _ => exact h

theorem trans (first : kind.Edited hosts addresses old mid)
    (second : kind.Edited hosts addresses mid new) : kind.Edited hosts addresses old new := by
  cases kind with
  | ipPrefix =>
    obtain rfl | ⟨hempty, vrf, hvrf, rfl⟩ := first
    · exact second
    · obtain rfl | ⟨-, vrf', hvrf', rfl⟩ := second
      · exact .inr ⟨hempty, vrf, hvrf, rfl⟩
      · exact .inr ⟨hempty, vrf', hvrf', rfl⟩
  | device =>
    obtain rfl | ⟨named, ip4, ip, given4, given, rfl⟩ := first
    · exact second
    · obtain rfl | ⟨-, ip4', ip', given4', given', rfl⟩ := second
      · exact .inr ⟨named, ip4, ip, given4, given, rfl⟩
      · exact .inr ⟨named, ip4', ip', given4.trans given4', given.trans given', rfl⟩
  | _ =>
    obtain rfl : mid = old := first
    exact second

theorem id_eq (h : kind.Edited hosts addresses old new) : kind.id new = kind.id old := by
  cases kind with
  | ipPrefix => obtain rfl | ⟨-, vrf, -, rfl⟩ := h <;> rfl
  | device => obtain rfl | ⟨-, ip4, ip, -, -, rfl⟩ := h <;> rfl
  | _ =>
    obtain rfl : new = old := h
    rfl

theorem key_eq (h : kind.Edited hosts addresses old new) : kind.key? new = kind.key? old := by
  cases kind with
  | ipPrefix => obtain rfl | ⟨-, vrf, -, rfl⟩ := h <;> rfl
  | device => obtain rfl | ⟨-, ip4, ip, -, -, rfl⟩ := h <;> rfl
  | _ =>
    obtain rfl : new = old := h
    rfl

end Kind.Edited

section Lists

open List

variable {α : Type} {R : α → α → Prop}

private theorem forall₂_trans (trans : ∀ a b c, R a b → R b c → R a c) {l₁ l₂ l₃ : List α}
    (first : Forall₂ R l₁ l₂) (second : Forall₂ R l₂ l₃) : Forall₂ R l₁ l₃ := by
  induction first generalizing l₃ with
  | nil => exact second
  | cons hab _ ih =>
    obtain ⟨c, rest, hbc, hrest, rfl⟩ := forall₂_cons_left_iff.1 second
    exact .cons (trans _ _ _ hab hbc) (ih hrest)

private theorem exists_of_forall₂_append {l₁ l₂ l : List α} (h : Forall₂ R (l₁ ++ l₂) l) :
    ∃ m₁ m₂, l = m₁ ++ m₂ ∧ Forall₂ R l₁ m₁ ∧ Forall₂ R l₂ m₂ := by
  have flipped : Forall₂ (flip R) l (l₁ ++ l₂) := h.flip
  have first := forall₂_take_append l l₁ l₂ flipped
  have second := forall₂_drop_append l l₁ l₂ flipped
  exact ⟨l.take l₁.length, l.drop l₁.length, by simp, first.flip, second.flip⟩

private theorem exists_mem_of_forall₂ {l m : List α} (h : Forall₂ R l m) {b : α} (hb : b ∈ m) :
    ∃ a ∈ l, R a b := by
  induction h with
  | nil => cases hb
  | cons hab _ ih =>
    obtain rfl | hb := List.mem_cons.1 hb
    · exact ⟨_, List.mem_cons_self, hab⟩
    · obtain ⟨a, ha, hR⟩ := ih hb
      exact ⟨a, List.mem_cons_of_mem _ ha, hR⟩

private theorem forall₂_modify (refl : ∀ a, R a a) {before after : List α} {a b : α} (h : R a b) :
    Forall₂ R (before ++ a :: after) (before ++ b :: after) := by
  have same : ∀ l : List α, Forall₂ R l l := fun l => forall₂_same.2 fun x _ => refl x
  exact rel_append (same before) (.cons h (same after))

end Lists

namespace MemoryStore

variable {hosts : List Host} {old mid new store : MemoryStore}

/-- Every collection of `new` is that of `old`, edited at most, followed by records with
identifiers that `old` had not given out yet. -/
structure Continues (hosts : List Host) (old new : MemoryStore) : Prop where
  records : ∀ kind, ∃ kept fresh, new.records kind = kept ++ fresh ∧
    List.Forall₂ (kind.Edited hosts new.addresses) (old.records kind) kept ∧
    ∀ r ∈ fresh, old.lastId < kind.id r
  lastId : old.lastId ≤ new.lastId
  permissionDrafts : old.permissionDrafts <+: new.permissionDrafts
  deviceDrafts : old.deviceDrafts <+: new.deviceDrafts

namespace Continues

/-- One record has been edited. -/
theorem of_edited {kind : Kind} {before after : List kind.Record} {r r' : kind.Record}
    (edited : kind.Edited hosts new.addresses r r') (was : old.records kind = before ++ r :: after)
    (is : new.records kind = before ++ r' :: after)
    (others : ∀ other ≠ kind, new.records other = old.records other)
    (lastId : new.lastId = old.lastId) (permissionDrafts : new.permissionDrafts =
      old.permissionDrafts) (deviceDrafts : new.deviceDrafts = old.deviceDrafts) :
    Continues hosts old new where
  records other := by
    by_cases hkind : other = kind
    · subst hkind
      refine ⟨new.records other, [], (List.append_nil _).symm, ?_, fun _ hr => nomatch hr⟩
      rw [was, is]
      exact forall₂_modify Kind.Edited.refl edited
    · refine ⟨new.records other, [], (List.append_nil _).symm, ?_, fun _ hr => nomatch hr⟩
      rw [others other hkind]
      exact List.forall₂_same.2 fun r _ => .refl r
  lastId := le_of_eq lastId.symm
  permissionDrafts := permissionDrafts ▸ List.prefix_rfl
  deviceDrafts := deviceDrafts ▸ List.prefix_rfl

/-- No collection has been touched. -/
theorem of_records_eq (records : ∀ kind, new.records kind = old.records kind)
    (lastId : new.lastId = old.lastId) (permissionDrafts : new.permissionDrafts =
      old.permissionDrafts) (deviceDrafts : new.deviceDrafts = old.deviceDrafts) :
    Continues hosts old new where
  records kind := ⟨old.records kind, [], by simp [records],
    List.forall₂_same.2 fun r _ => .refl r, fun _ hr => nomatch hr⟩
  lastId := le_of_eq lastId.symm
  permissionDrafts := permissionDrafts ▸ List.prefix_rfl
  deviceDrafts := deviceDrafts ▸ List.prefix_rfl

theorem refl (store : MemoryStore) : Continues hosts store store :=
  of_records_eq (fun _ => rfl) rfl rfl rfl

/-- No address is lost or edited. -/
theorem addresses_subset (h : Continues hosts old new) : old.addresses ⊆ new.addresses := by
  obtain ⟨kept, fresh, is, edited, -⟩ := h.records .address
  have same : kept = old.records .address :=
    List.forall₂_eq_eq_eq (α := Record.Address) ▸ edited.flip
  intro address mem
  change address ∈ new.records .address
  rw [is, same]
  exact List.mem_append_left fresh mem

theorem trans (first : Continues hosts old mid) (second : Continues hosts mid new) :
    Continues hosts old new where
  records kind := by
    obtain ⟨kept, fresh, hmid, hkept, hfresh⟩ := first.records kind
    replace hkept := hkept.imp fun _ _ edited => edited.mono second.addresses_subset
    obtain ⟨kept', fresh', hnew, hkept', hfresh'⟩ := second.records kind
    rw [hmid] at hkept'
    obtain ⟨kept₁, fresh₁, rfl, h₁, h₂⟩ := exists_of_forall₂_append hkept'
    refine ⟨kept₁, fresh₁ ++ fresh', by simp [hnew],
      forall₂_trans (fun _ _ _ => Kind.Edited.trans) hkept h₁, fun r hr => ?_⟩
    obtain hr | hr := List.mem_append.1 hr
    · obtain ⟨r₀, hr₀, hedited⟩ := exists_mem_of_forall₂ h₂ hr
      rw [hedited.id_eq]
      exact hfresh r₀ hr₀
    · exact lt_of_le_of_lt first.lastId (hfresh' r hr)
  lastId := le_trans first.lastId second.lastId
  permissionDrafts := first.permissionDrafts.trans second.permissionDrafts
  deviceDrafts := first.deviceDrafts.trans second.deviceDrafts

/-- An old record is still there, edited at most. -/
theorem exists_mem (h : Continues hosts old new) {kind : Kind} {r : kind.Record}
    (hr : r ∈ old.records kind) :
    ∃ r' ∈ new.records kind, kind.Edited hosts new.addresses r r' := by
  obtain ⟨kept, fresh, hnew, hkept, -⟩ := h.records kind
  obtain ⟨r', hr', hedited⟩ := exists_mem_of_forall₂ hkept.flip hr
  exact ⟨r', hnew ▸ List.mem_append_left fresh hr', hedited⟩

end Continues

/-- The request makes no edits but the allowed ones. -/
def Allowed (hosts : List Host) (store : MemoryStore) : StoreRequest → Prop
  | .describe id description => ∀ r ∈ store.prefixes, r.id = id →
    r.description.isEmpty ∧ ∃ vrf, r.vrf = some vrf ∧ description = vrf.label
  | .setPrimary device _ => ∀ r ∈ store.devices, r.id = device →
    ∃ host ∈ hosts, host.address.ip?.isSome ∧ r.name = some host.name
  | _ => True

private theorem counted_continues : Continues hosts store store.counted :=
  .of_records_eq (fun _ => records_counted) rfl rfl rfl

private theorem grow_continues {kind : Kind} {draft : kind.Draft} {record : Int → kind.Record}
    (h : store.build kind draft = .ok record) :
    Continues hosts store (store.grow kind draft record) where
  records other := by
    by_cases hkind : other = kind
    · subst hkind
      refine ⟨store.records other, [record (store.lastId + 1)], records_grow draft record,
        List.forall₂_same.2 fun r _ => .refl r, fun r hr => ?_⟩
      obtain rfl := List.mem_singleton.1 hr
      have := (id_key_of_build h (store.lastId + 1)).1
      omega
    · exact ⟨store.records other, [], by simp [records_grow_of_ne hkind],
        List.forall₂_same.2 fun r _ => .refl r, fun _ hr => nomatch hr⟩
  lastId := by
    have : (store.grow kind draft record).lastId = store.lastId + 1 := lastId_grow draft record
    omega
  permissionDrafts := permissionDrafts_grow draft record
  deviceDrafts := deviceDrafts_grow draft record

/-- The step: an allowed request leads on. -/
theorem Allowed.continues {request : StoreRequest} (h : Allowed hosts store request) :
    Continues hosts store (respond request store).2 := by
  have listed {kind : Kind} (wanted : kind.Record → Bool) :
      Continues hosts store (store.list kind wanted).2 := by
    obtain ⟨outages, heq⟩ := store.list_snd wanted
    rw [heq]
    exact .of_records_eq (fun kind => by cases kind <;> rfl) rfl rfl rfl
  cases request with
  | list kind => exact listed _
  | listUndescribed => exact listed _
  | create kind draft =>
    change Continues hosts store (store.create kind draft).2
    obtain ⟨e, heq⟩ | ⟨record, hbuild, heq⟩ := store.create_cases kind draft
    · rw [heq]
      exact counted_continues
    · rw [heq]
      exact grow_continues hbuild
  | describe id description =>
    change Continues hosts store (store.describe id description).2
    obtain heq | ⟨before, r, after, hprefixes, hid, heq⟩ := store.describe_cases id description
    · rw [heq]
      exact .refl store
    · obtain ⟨hempty, vrf, hvrf, rfl⟩ := h r (by simp [hprefixes]) hid
      have edited : Kind.ipPrefix.Edited hosts store.addresses r
          { r with description := vrf.label } :=
        .inr ⟨hempty, vrf, hvrf, rfl⟩
      rw [heq]
      exact .of_edited edited hprefixes rfl
        (fun other hne => by cases other <;> first | rfl | exact absurd rfl hne) rfl rfl rfl
  | setPrimary device primary =>
    change Continues hosts store (store.setPrimary device primary).2
    rcases store.setPrimary_cases device primary with
      heq | ⟨address, known, before, r, after, hdevices, hid, heq⟩
    · rw [heq]
      exact .refl store
    · have given (old : Option Record.Address) : KeptOrGiven store.addresses old (some address) :=
        .inr ⟨address, known, rfl⟩
      have edited : Kind.device.Edited hosts store.addresses r (withPrimary r address primary) := by
        refine .inr ⟨h r (by simp [hdevices]) hid, ?_⟩
        cases primary with
        | v4 id => exact ⟨_, _, given _, .inl rfl, rfl⟩
        | v6 id => exact ⟨_, _, .inl rfl, given _, rfl⟩
      rw [heq]
      exact .of_edited edited hdevices rfl
        (fun other hne => by cases other <;> first | rfl | exact absurd rfl hne) rfl rfl rfl

end MemoryStore

end AssetSeed
