import AssetSeed.Proofs.Store.Growth
import Mathlib.Data.List.Nodup

/-!
# Groups, permissions and the drafts of permissions

Groups and permissions are only ever added. As long as no name is refused, a create of one of them
is refused only where the name is there already.

## Main definitions

* `MemoryStore.Adds` — records and drafts of permissions have only been added.
* `MemoryStore.Orderly` — names differ, each permission has a draft, and no name is refused.
* `MemoryStore.Has` — a record has the key.

## Main statements

* `MemoryStore.Effect.adds`, `MemoryStore.Effect.orderly` — what every request keeps.
* `MemoryStore.Effect.has` — a group or a permission that has been asked for is there.
-/

namespace AssetSeed.MemoryStore

variable {store store' old mid new : MemoryStore} {kind : Kind} {request : StoreRequest}

/-! ## What is added -/

/-- Records that cannot be changed have only been added, and so have the drafts of permissions. -/
structure Adds (old new : MemoryStore) : Prop where
  records : ∀ kind : Kind, kind ≠ .ipPrefix → kind ≠ .device → old.records kind <+: new.records kind
  drafts : old.permissionDrafts <+: new.permissionDrafts

namespace Adds

theorem refl (store : MemoryStore) : Adds store store :=
  ⟨fun _ _ _ => List.prefix_rfl, List.prefix_rfl⟩

theorem trans (first : Adds old mid) (second : Adds mid new) : Adds old new where
  records kind ipPrefix device :=
    (first.records kind ipPrefix device).trans (second.records kind ipPrefix device)
  drafts := first.drafts.trans second.drafts

theorem groups (h : Adds old new) : old.groups <+: new.groups :=
  h.records .group nofun nofun

end Adds

theorem Effect.adds (h : Effect store request store') : Adds store store' := by
  constructor
  case records =>
    intro kind ipPrefix device
    by_cases touched : request.touches? = some kind
    · cases h with
      | listed | listedUndescribed => cases touched
      | refused => exact records_counted.symm ▸ List.prefix_rfl
      | created =>
        cases touched
        rw [records_grow]
        exact List.prefix_append _ _
      | described => exact absurd (Option.some.inj touched).symm ipPrefix
      | pointed => exact absurd (Option.some.inj touched).symm device
    · exact (h.records_of_ne touched).symm ▸ List.prefix_rfl
  case drafts =>
    cases h with
    | created => exact permissionDrafts_grow _ _
    | _ => exact List.prefix_rfl

/-- A draft that is kept was kept before, or has just been sent. -/
theorem Effect.mem_drafts (h : Effect store request store') {draft : Draft.Permission}
    (mem : draft ∈ store'.permissionDrafts) :
    draft ∈ store.permissionDrafts ∨ request = .create .permission draft := by
  cases h with
  | @created kind draft' record =>
    by_cases hkind : kind = .permission
    · subst hkind
      obtain mem | mem := List.mem_append.1 mem
      · exact .inl mem
      · exact .inr (List.mem_singleton.1 mem ▸ rfl)
    · cases kind <;> first | exact .inl mem | exact absurd rfl hkind
  | _ => exact .inl mem

/-! ## What is refused -/

/-- Names of groups and of permissions differ, each permission has the draft that it was created
from, and no name is refused. -/
structure Orderly (store : MemoryStore) : Prop where
  groups : (store.groups.map (·.name)).Nodup
  permissions : (store.permissions.map (·.name)).Nodup
  drafts : store.permissionDrafts.map (·.name) = store.permissions.map (·.name)
  unrefused : store.refusedNames = []

theorem not_clashes_of_verdict {draft : kind.Draft} (h : store.verdict kind draft = none) :
    ∀ r ∈ store.records kind, ¬kind.clashes draft r := by
  intro r hr clash
  have refused : ∃ e, store.verdict kind draft = some e := by
    by_cases hname : kind.draftKey draft ∈ store.refusedNames
    · exact ⟨_, verdict_eq_some_iff.2 (.inl ⟨hname, rfl⟩)⟩
    · exact ⟨_, verdict_eq_some_iff.2 (.inr ⟨hname, .inl ⟨⟨r, hr, clash⟩, rfl⟩⟩)⟩
  obtain ⟨e, he⟩ := refused
  simp [h] at he

theorem Orderly.grow_group (orderly : Orderly store) {draft : Draft.Group}
    {record : Int → Record.Group} (accepted : store.verdict .group draft = none)
    (made : store.build .group draft = .ok record) : Orderly (store.grow .group draft record) := by
  cases made
  have absent : draft.name ∉ store.groups.map (·.name) := by
    intro hmem
    obtain ⟨r, hr, heq⟩ := List.mem_map.1 hmem
    exact not_clashes_of_verdict accepted r hr (decide_eq_true heq)
  have grown : (store.grow .group draft fun id => { id, name := draft.name }).groups =
      store.groups ++ [{ id := store.lastId + 1, name := draft.name }] := rfl
  refine ⟨?_, orderly.permissions, orderly.drafts, orderly.unrefused⟩
  rw [grown, List.map_append]
  exact List.nodup_append_comm.1 (List.nodup_cons.2 ⟨absent, orderly.groups⟩)

theorem Orderly.grow_permission (orderly : Orderly store) {draft : Draft.Permission}
    {record : Int → Record.Permission} (accepted : store.verdict .permission draft = none)
    (made : store.build .permission draft = .ok record) :
    Orderly (store.grow .permission draft record) := by
  cases made
  have absent : draft.name ∉ store.permissions.map (·.name) := by
    intro hmem
    obtain ⟨r, hr, heq⟩ := List.mem_map.1 hmem
    exact not_clashes_of_verdict accepted r hr (decide_eq_true heq)
  have grown : (store.grow .permission draft fun id =>
      { id, name := draft.name, enabled := draft.enabled }).permissions = store.permissions ++
        [{ id := store.lastId + 1, name := draft.name, enabled := draft.enabled }] := rfl
  have kept : (store.grow .permission draft fun id =>
      { id, name := draft.name, enabled := draft.enabled }).permissionDrafts =
        store.permissionDrafts ++ [draft] := rfl
  refine ⟨orderly.groups, ?_, ?_, orderly.unrefused⟩
  · rw [grown, List.map_append]
    exact List.nodup_append_comm.1 (List.nodup_cons.2 ⟨absent, orderly.permissions⟩)
  · rw [grown, kept, List.map_append, List.map_append, orderly.drafts]
    rfl

theorem Effect.orderly (h : Effect store request store') (orderly : Orderly store) :
    Orderly store' := by
  cases h with
  | @created kind draft record accepted made =>
    cases kind with
    | group => exact orderly.grow_group accepted made
    | permission => exact orderly.grow_permission accepted made
    | objectType => exact draft.elim
    | _ => exact ⟨orderly.groups, orderly.permissions, orderly.drafts, orderly.unrefused⟩
  | _ => exact ⟨orderly.groups, orderly.permissions, orderly.drafts, orderly.unrefused⟩

theorem filter_eq_singleton {α β : Type} [DecidableEq β] {f : α → β} {l : List α}
    (nodup : (l.map f).Nodup) {a : α} (mem : a ∈ l) : (l.filter fun b => f b = f a) = [a] := by
  obtain ⟨before, after, rfl⟩ := List.append_of_mem mem
  rw [List.map_append, List.map_cons, List.nodup_middle, List.nodup_cons, ← List.map_append]
    at nodup
  have others : ((before ++ after).filter fun b => f b = f a) = [] :=
    List.filter_eq_nil_iff.2 fun b hb heq =>
      nodup.1 (of_decide_eq_true heq ▸ List.mem_map_of_mem hb)
  rw [List.filter_append, List.append_eq_nil_iff] at others
  simp [others]

/-- The groups that the drafts of a permission are for. -/
def grantsOf (store : MemoryStore) (name : String) : List (List Int) :=
  (store.permissionDrafts.filter (·.name = name)).map (·.groups)

theorem Orderly.grantsOf_eq (orderly : Orderly store) {draft : Draft.Permission}
    (mem : draft ∈ store.permissionDrafts) : store.grantsOf draft.name = [draft.groups] := by
  have nodup : (store.permissionDrafts.map (·.name)).Nodup := orderly.drafts ▸ orderly.permissions
  rw [grantsOf, filter_eq_singleton nodup mem, List.map_singleton]

/-- A record of the kind has the key. -/
def Has (store : MemoryStore) (kind : Kind) (key : String) : Prop :=
  ∃ r ∈ store.records kind, kind.key? r = some key

theorem Orderly.has_permission_iff (orderly : Orderly store) {name : String} :
    store.Has .permission name ↔ ∃ draft ∈ store.permissionDrafts, draft.name = name := by
  rw [← List.mem_map, orderly.drafts, List.mem_map]
  simp [Has, records, Kind.key?]

/-- Whom a permission is for does not change. -/
theorem Adds.grantsOf_eq (adds : Adds old new) (orderly : Orderly old) (orderly' : Orderly new)
    {name : String} (has : old.Has .permission name) : new.grantsOf name = old.grantsOf name := by
  obtain ⟨draft, hdraft, rfl⟩ := orderly.has_permission_iff.1 has
  rw [orderly.grantsOf_eq hdraft, orderly'.grantsOf_eq (adds.drafts.subset hdraft)]

section Named

variable (named : kind ∈ [.group, .permission])

include named

theorem Adds.has (h : Adds old new) {key : String} (has : old.Has kind key) : new.Has kind key := by
  obtain ⟨r, hr, hkey⟩ := has
  have fixed : kind ≠ .ipPrefix ∧ kind ≠ .device := by
    constructor <;> rintro rfl <;> simp at named
  exact ⟨r, (h.records kind fixed.1 fixed.2).subset hr, hkey⟩

/-- Where no name is refused, a group or a permission that is refused is there. -/
theorem Orderly.has_of_verdict (orderly : Orderly store) {draft : kind.Draft} {e : StoreError}
    (h : store.verdict kind draft = some e) : store.Has kind (kind.draftKey draft) := by
  simp only [List.mem_cons, List.not_mem_nil, or_false] at named
  obtain ⟨hname, -⟩ | ⟨-, ⟨⟨r, hr, clash⟩, -⟩ | ⟨-, hbuild⟩⟩ := verdict_eq_some_iff.1 h
  · simp [orderly.unrefused] at hname
  · obtain rfl | rfl := named
    · exact ⟨r, hr, congrArg some (of_decide_eq_true clash)⟩
    · exact ⟨r, hr, congrArg some (of_decide_eq_true clash)⟩
  · obtain rfl | rfl := named <;> cases hbuild

/-- Whether a group or a permission is created or refused, it is there then. -/
theorem Effect.has {draft : kind.Draft} (h : Effect store (.create kind draft) store')
    (orderly : Orderly store) : store'.Has kind (kind.draftKey draft) := by
  cases h with
  | refused refused =>
    obtain ⟨r, hr, hkey⟩ := orderly.has_of_verdict named refused
    exact ⟨r, records_counted.symm ▸ hr, hkey⟩
  | created _ made =>
    rw [Has, records_grow]
    exact ⟨_, List.mem_append_right _ List.mem_cons_self, (id_key_of_build made _).2⟩

end Named

end AssetSeed.MemoryStore
