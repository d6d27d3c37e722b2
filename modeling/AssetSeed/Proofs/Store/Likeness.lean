import AssetSeed.Proofs.Reconcile.Settling

/-!
# Databases that look alike

What a database makes of a draft depends on keys and slugs and on what is refused. It does not
depend on identifiers, which differ between two databases as soon as one of them has made a record
that the other has not.

## Main definitions

* `Kind.face`, `MemoryStore.faces` — what a record, and a collection, looks like.
* `MemoryStore.Alike` — databases that look alike, but for some collections.
* `MemoryStore.Twins` — drafts that look alike.
* `MemoryStore.Ailing` — the listings of one kind fail, and no other ones.

## Main statements

* `MemoryStore.Alike.verdict_eq` — a draft meets the fate of its twin.
* `MemoryStore.Alike.grow`, `MemoryStore.Alike.of_grows` — databases that go on looking alike.
* `MemoryStore.Alike.describe` — prefixes are described alike.
-/

namespace AssetSeed

/-- The slug of a record, if records of the kind have one. -/
def Kind.slug? : (kind : Kind) → kind.Record → Option String
  | .manufacturer, r => some r.slug
  | .role, r => some r.slug
  | .deviceType, r => some r.slug
  | .site, r => some r.slug
  | _, _ => none

/-- The slug that a record created from the draft will have. -/
def Kind.draftSlug? : (kind : Kind) → kind.Draft → Option String
  | .manufacturer, d => some d.slug
  | .role, d => some d.slug
  | .deviceType, d => some d.slug
  | .site, d => some d.slug
  | _, _ => none

/-- What a record looks like. -/
structure Face where
  key : Option String
  slug : Option String
deriving DecidableEq

namespace Kind

def face (kind : Kind) (r : kind.Record) : Face :=
  ⟨kind.key? r, kind.slug? r⟩

def draftFace (kind : Kind) (draft : kind.Draft) : Face :=
  ⟨some (kind.draftKey draft), kind.draftSlug? draft⟩

/-- Whether a record with one face would repeat a record with another one. -/
def repeats : Kind → Face → Face → Bool
  | .ipPrefix, _, _ => false
  | .interface, _, _ => false
  | .manufacturer, new, old => old.key = new.key || old.slug = new.slug
  | .role, new, old => old.key = new.key || old.slug = new.slug
  | .site, new, old => old.key = new.key || old.slug = new.slug
  | _, new, old => old.key = new.key

theorem clashes_eq {kind : Kind} (draft : kind.Draft) (r : kind.Record) :
    kind.clashes draft r = kind.repeats (kind.draftFace draft) (kind.face r) := by
  cases kind with
  | objectType => exact draft.elim
  | device => exact decide_eq_decide.2 Iff.rfl
  | _ => simp [clashes, repeats, face, draftFace, key?, slug?, draftKey, draftSlug?]

end Kind

namespace MemoryStore

variable {store a a' b b' : MemoryStore} {kind : Kind} {spoiled : List Kind}

/-- What a collection looks like. -/
def faces (store : MemoryStore) (kind : Kind) : List Face :=
  (store.records kind).map kind.face

theorem faces_congr (h : b.records kind = a.records kind) : b.faces kind = a.faces kind := by
  rw [faces, faces, h]

theorem isDuplicate_eq_faces (draft : kind.Draft) :
    store.isDuplicate kind draft =
      (store.faces kind).any (kind.repeats (kind.draftFace draft)) := by
  rw [isDuplicate_eq, faces, List.any_map]
  exact congrArg _ (funext (Kind.clashes_eq draft))

theorem face_of_build {draft : kind.Draft} {record : Int → kind.Record}
    (made : store.build kind draft = .ok record) (id : Int) :
    kind.face (record id) = kind.draftFace draft := by
  have slug : kind.slug? (record id) = kind.draftSlug? draft := by
    cases kind with
    | objectType => exact draft.elim
    | deviceType | device | interface =>
      rw [build] at made
      split at made <;> cases made
      rfl
    | _ => cases made; rfl
  rw [Kind.face, Kind.draftFace, (id_key_of_build made id).2, slug]

theorem contains_index_iff_faces {key : String} :
    (store.index kind).contains key = true ↔ ∃ face ∈ store.faces kind, face.key = some key := by
  simp [contains_index, faces, Kind.face]

theorem contains_index_eq (h : a.faces kind = b.faces kind) (key : String) :
    (a.index kind).contains key = (b.index kind).contains key := by
  rw [Bool.eq_iff_iff, contains_index_iff_faces, contains_index_iff_faces, h]

/-! ## Drafts -/

/-- The drafts make records that look alike, or none for the same reason. -/
structure Twins (a b : MemoryStore) (kind : Kind) (draft draft' : kind.Draft) : Prop where
  face : kind.draftFace draft = kind.draftFace draft'
  unmade : ∀ e, a.build kind draft = .error e ↔ b.build kind draft' = .error e

theorem Twins.key {draft draft' : kind.Draft} (twins : Twins a b kind draft draft') :
    kind.draftKey draft = kind.draftKey draft' :=
  Option.some.inj (congrArg Face.key twins.face)

/-- A draft that refers to nothing always makes a record. -/
theorem Twins.of_mentions_eq_nil {draft draft' : kind.Draft} (independent : kind.mentions = [])
    (face : kind.draftFace draft = kind.draftFace draft') : Twins a b kind draft draft' := by
  refine ⟨face, fun e => ?_⟩
  cases kind with
  | objectType => exact draft.elim
  | deviceType | ipPrefix | device | interface => cases independent
  | _ => exact ⟨nofun, nofun⟩

/-- The drafts stay twins while records of their kind are created. -/
theorem Twins.grows {draft draft' : kind.Draft} (twins : Twins a b kind draft draft')
    (left : Grows [kind] a a') (right : Grows [kind] b b') : Twins a' b' kind draft draft' := by
  refine ⟨twins.face, fun e => ?_⟩
  rw [build_congr fun other hother => left.others other (not_mem_singleton_of_mem_mentions hother),
    build_congr fun other hother => right.others other (not_mem_singleton_of_mem_mentions hother)]
  exact twins.unmade e

/-! ## Databases -/

/-- The databases look alike, but for some collections. -/
structure Alike (spoiled : List Kind) (a b : MemoryStore) : Prop where
  faces : ∀ kind ∉ spoiled, a.faces kind = b.faces kind
  prefixes : a.prefixes = b.prefixes
  refusedNames : a.refusedNames = b.refusedNames
  failingUpdates : a.failingUpdates = b.failingUpdates

namespace Alike

theorem refl (store : MemoryStore) : Alike spoiled store store :=
  ⟨fun _ _ => rfl, rfl, rfl, rfl⟩

theorem symm (h : Alike spoiled a b) : Alike spoiled b a where
  faces kind unspoiled := (h.faces kind unspoiled).symm
  prefixes := h.prefixes.symm
  refusedNames := h.refusedNames.symm
  failingUpdates := h.failingUpdates.symm

/-- Where a collection does not count, it may grow. -/
theorem of_grows (h : Alike spoiled a b) (grows : Grows spoiled a a')
    (unspoiled : .ipPrefix ∉ spoiled) : Alike spoiled a' b where
  faces kind hkind := (faces_congr (grows.others kind hkind)).trans (h.faces kind hkind)
  prefixes := (grows.others .ipPrefix unspoiled).trans h.prefixes
  refusedNames := grows.refusedNames.trans h.refusedNames
  failingUpdates := grows.failingUpdates.trans h.failingUpdates

theorem counted (h : Alike spoiled a b) : Alike spoiled a.counted b.counted where
  faces kind hkind := by
    rw [faces_congr (a := a) records_counted, faces_congr (a := b) records_counted]
    exact h.faces kind hkind
  prefixes := h.prefixes
  refusedNames := h.refusedNames
  failingUpdates := h.failingUpdates

/-- Two records that look alike are added, whatever their identifiers. -/
theorem grow (h : Alike spoiled a b) {draft draft' : kind.Draft}
    {record record' : Int → kind.Record} (twins : Twins a b kind draft draft')
    (made : a.build kind draft = .ok record) (made' : b.build kind draft' = .ok record')
    (unshared : kind ≠ .ipPrefix) :
    Alike spoiled (a.grow kind draft record) (b.grow kind draft' record') where
  faces other hother := by
    by_cases same : other = kind
    · subst same
      simp only [MemoryStore.faces, records_grow, List.map_append, List.map_singleton,
        face_of_build made, face_of_build made', twins.face]
      rw [← MemoryStore.faces, ← MemoryStore.faces, h.faces other hother]
    · rw [faces_congr (records_grow_of_ne same draft record),
        faces_congr (records_grow_of_ne same draft' record')]
      exact h.faces other hother
  prefixes := by
    have left : (a.grow kind draft record).prefixes = a.prefixes :=
      records_grow_of_ne (Ne.symm unshared) draft record
    have right : (b.grow kind draft' record').prefixes = b.prefixes :=
      records_grow_of_ne (Ne.symm unshared) draft' record'
    rw [left, right, h.prefixes]
  refusedNames := by simpa using h.refusedNames
  failingUpdates := by simpa using h.failingUpdates

/-- A draft is refused where its twin is refused, and for the same reason. -/
theorem verdict_eq (h : Alike spoiled a b) (unspoiled : kind ∉ spoiled)
    {draft draft' : kind.Draft} (twins : Twins a b kind draft draft') :
    a.verdict kind draft = b.verdict kind draft' := by
  have duplicate : a.isDuplicate kind draft = b.isDuplicate kind draft' := by
    rw [isDuplicate_eq_faces, isDuplicate_eq_faces, h.faces kind unspoiled, twins.face]
  have refusal : a.refusal? (kind.draftKey draft) (a.isDuplicate kind draft) =
      b.refusal? (kind.draftKey draft') (b.isDuplicate kind draft') := by
    simp only [refusal?, h.refusedNames, duplicate, twins.key]
  rw [verdict, verdict, refusal]
  cases hleft : a.build kind draft with
  | error e => rw [(twins.unmade e).1 hleft]
  | ok record =>
    cases hright : b.build kind draft' with
    | error e => simp [(twins.unmade e).2 hright] at hleft
    | ok record' => rfl

/-- The prefixes are the same, so they are described alike. -/
theorem describe (h : Alike spoiled a b) (id : Int) (description : String) :
    (a.describe id description).1 = (b.describe id description).1 ∧
      Alike spoiled (a.describe id description).2 (b.describe id description).2 := by
  rw [MemoryStore.describe, MemoryStore.describe, h.failingUpdates, h.prefixes]
  split
  · exact ⟨rfl, h⟩
  · split
    · refine ⟨rfl, fun kind hkind => ?_, rfl, h.refusedNames, rfl⟩
      cases kind with
      | ipPrefix => rfl
      | _ => exact h.faces _ hkind
    · exact ⟨rfl, h⟩

end Alike

/-! ## The listings that fail -/

/-- Every listing of the kind fails, if one is given, and no other listing does. -/
def Ailing (failed? : Option Kind) (store : MemoryStore) : Prop :=
  ∀ kind, store.outage kind = if failed? = some kind then .forever else .times 0

theorem Ailing.outage_eq {failed? : Option Kind} (h : Ailing failed? store)
    (well : failed? ≠ some kind) : store.outage kind = .times 0 :=
  (h kind).trans (if_neg well)

theorem outage_setOutage_of_ne {failed : Kind} (ne : kind ≠ failed) (outage : Outage) :
    (store.setOutage failed outage).outage kind = store.outage kind := by
  have passed : ∀ entry : Kind × Outage,
      decide (decide (entry.1 ≠ failed) = true ∧ decide (entry.1 = kind) = true) =
        decide (entry.1 = kind) := by
    rintro ⟨other, _⟩
    by_cases same : other = kind <;> simp [same, ne]
  simp only [MemoryStore.outage, setOutage, List.find?_cons, decide_eq_false (Ne.symm ne),
    List.find?_filter, passed]

theorem Ailing.setOutage (h : Ailing none store) (failed : Kind) :
    Ailing (some failed) (store.setOutage failed .forever) := by
  intro kind
  by_cases same : kind = failed
  · simp [MemoryStore.outage, MemoryStore.setOutage, same]
  · rw [outage_setOutage_of_ne same, h kind]
    simp [Ne.symm same]

theorem Ailing.congr {failed? : Option Kind} (h : Ailing failed? a)
    (outages : a'.outages = a.outages) : Ailing failed? a' := by
  intro kind
  rw [MemoryStore.outage, outages]
  exact h kind

/-- A listing that always fails, or never does, leaves the database as it is. -/
theorem Ailing.list_snd {failed? : Option Kind} (h : Ailing failed? store)
    (wanted : kind.Record → Bool) : (store.list kind wanted).2 = store := by
  have known := h kind
  rw [list, checkListing, known]
  by_cases failing : failed? = some kind <;> simp [failing]

end MemoryStore

end AssetSeed
