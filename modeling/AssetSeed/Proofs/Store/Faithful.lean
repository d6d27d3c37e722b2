import AssetSeed.Proofs.Dialogue.Ensures
import AssetSeed.Proofs.Store.Reachable
import AssetSeed.Proofs.Store.Transcript

/-!
# Faithful databases

A faithful database shows what it holds, and makes one new record of a draft or does nothing. It is
free to fail, and it need not refuse duplicates.

## Main definitions

* `Faithful` — the laws of a database that holds collections.
* `Faithful.Absorbs` — a state that holds what an earlier one held and what has been created since.
* `Keyed` — a property of the keys of a kind, as an invariant.
* `MemoryStore.respondLeniently` — a database in memory that refuses neither duplicates nor names.

## Main statements

* `Faithful.absorbs_run` — what is held after a dialogue can be read off its transcript.
* `MemoryStore.faithful_respond`, `MemoryStore.faithful_respondLeniently` — databases in memory are
  faithful.
-/

namespace AssetSeed

variable {α σ : Type}

namespace Kind

variable (kind : Kind)

/-- The keys of the records that have one, in order. -/
def keys (records : List kind.Record) : List String :=
  records.filterMap kind.key?

/-- The identifiers of the records, in order. -/
def ids (records : List kind.Record) : List Int :=
  records.map kind.id

variable {kind} {records : List kind.Record} {key : String}

theorem mem_keys : key ∈ kind.keys records ↔ ∃ r ∈ records, kind.key? r = some key :=
  List.mem_filterMap

theorem keys_concat {r : kind.Record} (h : kind.key? r = some key) :
    kind.keys (records ++ [r]) = kind.keys records ++ [key] := by
  simp [keys, h]

theorem ids_concat (r : kind.Record) :
    kind.ids (records ++ [r]) = kind.ids records ++ [kind.id r] := by
  simp [ids]

/-- A record may change as long as it keeps its key and its identifier. -/
theorem keys_ids_modify {before after : List kind.Record} {r r' : kind.Record}
    (key : kind.key? r' = kind.key? r) (id : kind.id r' = kind.id r) :
    kind.keys (before ++ r' :: after) = kind.keys (before ++ r :: after) ∧
      kind.ids (before ++ r' :: after) = kind.ids (before ++ r :: after) := by
  simp [keys, ids, List.filterMap_cons, key, id]

end Kind

/-- In its `valid` states the database `holds` records of each kind, and answers accordingly. -/
structure Faithful (respond : Responder StoreProtocol σ) (valid : σ → Prop)
    (holds : σ → (kind : Kind) → List kind.Record) : Prop where
  stays : ∀ request s, valid s → valid (respond request s).2
  /-- A listing fails or shows what is held, in whatever order. -/
  list : ∀ kind s s' rs, valid s → respond (.list kind) s = (.ok rs, s') →
    rs.Perm (holds s kind)
  /-- A create that fails changes nothing. -/
  refused : ∀ kind draft s s' e, valid s → respond (.create kind draft) s = (.error e, s') →
    holds s' = holds s
  /-- A create that does not fail adds one record, with the key of the draft and a new
  identifier. -/
  created : ∀ kind draft s s' r, valid s → respond (.create kind draft) s = (.ok r, s') →
    holds s' kind = holds s kind ++ [r] ∧ (∀ other ≠ kind, holds s' other = holds s other) ∧
      kind.key? r = some (kind.draftKey draft) ∧ kind.id r ∉ kind.ids (holds s kind)
  /-- Other requests change neither keys nor identifiers. -/
  kept : ∀ (request : StoreRequest) s, valid s → request.creates? = none → ∀ kind : Kind,
    kind.keys (holds (respond request s).2 kind) = kind.keys (holds s kind) ∧
      kind.ids (holds (respond request s).2 kind) = kind.ids (holds s kind)

namespace Faithful

/-- The state `s'` holds what `s` held, and then the records that were created in what was said. -/
structure Absorbs (holds : σ → (kind : Kind) → List kind.Record) (said : Transcript) (s s' : σ) :
    Prop where
  keys : ∀ kind, kind.keys (holds s' kind) = kind.keys (holds s kind) ++ said.createdKeys kind
  ids : ∀ kind, kind.ids (holds s' kind) = kind.ids (holds s kind) ++ said.createdIds kind
  nodup : ∀ kind, (said.createdIds kind).Nodup
  fresh : ∀ kind, ∀ id ∈ said.createdIds kind, id ∉ kind.ids (holds s kind)

namespace Absorbs

variable {holds : σ → (kind : Kind) → List kind.Record} {said said' : Transcript} {s mid s' : σ}

theorem refl (s : σ) : Absorbs holds [] s s := by
  constructor <;> simp [Transcript.createdKeys, Transcript.createdIds]

theorem trans (first : Absorbs holds said s mid) (second : Absorbs holds said' mid s') :
    Absorbs holds (said ++ said') s s' where
  keys kind := by
    rw [second.keys, first.keys, List.append_assoc, Transcript.createdKeys_append]
  ids kind := by
    rw [second.ids, first.ids, List.append_assoc, Transcript.createdIds_append]
  nodup kind := by
    rw [Transcript.createdIds_append]
    refine (first.nodup kind).append (second.nodup kind) fun id hfirst hsecond => ?_
    refine second.fresh kind id hsecond ?_
    rw [first.ids kind]
    exact List.mem_append_right _ hfirst
  fresh kind id hid := by
    rw [Transcript.createdIds_append, List.mem_append] at hid
    obtain hid | hid := hid
    · exact first.fresh kind id hid
    · intro held
      refine second.fresh kind id hid ?_
      rw [first.ids kind]
      exact List.mem_append_left _ held

/-- Nothing was created, and nothing has changed. -/
theorem of_kept {e : Exchange StoreProtocol} (uncreated : ∀ kind,
      e.createdKey? kind = none ∧ e.createdId? kind = none)
    (kept : ∀ kind : Kind, kind.keys (holds s' kind) = kind.keys (holds s kind) ∧
      kind.ids (holds s' kind) = kind.ids (holds s kind)) : Absorbs holds [e] s s' where
  keys kind := by simp [Transcript.createdKeys, (uncreated kind).1, (kept kind).1]
  ids kind := by simp [Transcript.createdIds, (uncreated kind).2, (kept kind).2]
  nodup kind := by simp [Transcript.createdIds, (uncreated kind).2]
  fresh kind := by simp [Transcript.createdIds, (uncreated kind).2]

/-- One record was created, and nothing else has changed. -/
theorem of_created {kind : Kind} {draft : kind.Draft} {r : kind.Record}
    (held : holds s' kind = holds s kind ++ [r])
    (others : ∀ other ≠ kind, holds s' other = holds s other)
    (key : kind.key? r = some (kind.draftKey draft))
    (fresh : kind.id r ∉ kind.ids (holds s kind)) :
    Absorbs holds [⟨.create kind draft, .ok r⟩] s s' := by
  constructor
  case keys =>
    intro other
    by_cases hkind : kind = other
    · subst hkind
      simp [Transcript.createdKeys, Exchange.createdKey?, held, Kind.keys_concat key]
    · simp [Transcript.createdKeys, Exchange.createdKey?, hkind, others other (Ne.symm hkind)]
  case ids =>
    intro other
    by_cases hkind : kind = other
    · subst hkind
      simp [Transcript.createdIds, Exchange.createdId?, held, Kind.ids_concat]
    · simp [Transcript.createdIds, Exchange.createdId?, hkind, others other (Ne.symm hkind)]
  case nodup =>
    intro other
    by_cases hkind : kind = other <;> simp [Transcript.createdIds, Exchange.createdId?, hkind]
  case fresh =>
    intro other
    by_cases hkind : kind = other
    · subst hkind
      simpa [Transcript.createdIds, Exchange.createdId?] using fresh
    · simp [Transcript.createdIds, Exchange.createdId?, hkind]

end Absorbs

variable {respond : Responder StoreProtocol σ} {valid : σ → Prop}
  {holds : σ → (kind : Kind) → List kind.Record} {s s' : σ}

/-- The step: what a request does to the collections can be read off the answer. -/
theorem absorbs_step (h : Faithful respond valid holds) {request : StoreRequest}
    {answer : Except StoreError request.Reply} (start : valid s)
    (hc : respond.conduct request s answer s') : Absorbs holds [⟨request, answer⟩] s s' := by
  have unasked (uncreating : request.creates? = none)
      (uncreated : ∀ kind, Exchange.createdKey? kind ⟨request, answer⟩ = none ∧
        Exchange.createdId? kind ⟨request, answer⟩ = none) :
      Absorbs holds [⟨request, answer⟩] s s' := by
    refine .of_kept uncreated fun kind => ?_
    have hs' : s' = (respond request s).2 := (congrArg Prod.snd hc).symm
    rw [hs']
    exact h.kept request s start uncreating kind
  cases request with
  | create kind draft =>
    cases answer with
    | error e =>
      refine .of_kept (fun _ => ⟨rfl, rfl⟩) fun kind => ?_
      rw [h.refused _ _ _ _ _ start hc]
      exact ⟨rfl, rfl⟩
    | ok r =>
      obtain ⟨held, others, hkey, hid⟩ := h.created _ _ _ _ _ start hc
      exact .of_created held others hkey hid
  | _ => exact unasked rfl fun _ => ⟨rfl, rfl⟩

/-- What is held after a dialogue can be read off what was said. -/
theorem absorbs_run (h : Faithful respond valid holds) (d : StoreDialogue α) (start : valid s) :
    Absorbs holds (d.exchanges respond s) s (d.run respond s).2 := by
  induction d generalizing s with
  | done a => exact .refl s
  | ask request next ih =>
    have first : Absorbs holds [⟨request, (respond request s).1⟩] s (respond request s).2 :=
      h.absorbs_step start rfl
    exact first.trans (ih _ (h.stays request s start))

end Faithful

/-! ## Properties of keys -/

/-- The state is valid, and the keys of the kind have the property. -/
structure Keyed (valid : σ → Prop) (holds : σ → (kind : Kind) → List kind.Record) (kind : Kind)
    (p : List String → Prop) (s : σ) : Prop where
  valid : valid s
  keys : p (kind.keys (holds s kind))

theorem Keyed.mono {valid : σ → Prop} {holds : σ → (kind : Kind) → List kind.Record} {kind : Kind}
    {p p' : List String → Prop} {s : σ} (h : Keyed valid holds kind p s)
    (imp : ∀ keys, p keys → p' keys) : Keyed valid holds kind p' s :=
  ⟨h.valid, imp _ h.keys⟩

namespace Faithful

variable {respond : Responder StoreProtocol σ} {valid : σ → Prop}
  {holds : σ → (kind : Kind) → List kind.Record} {kind : Kind} {p p' : List String → Prop}
  {s s' : σ}

theorem keyed_step (h : Faithful respond valid holds) {request : StoreRequest}
    {answer : Except StoreError request.Reply} (held : Keyed valid holds kind p s)
    (hc : respond.conduct request s answer s')
    (grown : ∀ keys, p keys → p' (keys ++ Transcript.createdKeys [⟨request, answer⟩] kind)) :
    Keyed valid holds kind p' s' where
  valid := by
    rw [show s' = (respond request s).2 from (congrArg Prod.snd hc).symm]
    exact h.stays request s held.valid
  keys := by
    rw [(h.absorbs_step held.valid hc).keys]
    exact grown _ held.keys

end Faithful

/-! ## Databases in memory -/

namespace MemoryStore

/-- A create that is not refused for its key. -/
def createLeniently (store : MemoryStore) (kind : Kind) (draft : kind.Draft) :
    Except StoreError kind.Record × MemoryStore :=
  match store.build kind draft with
  | .error e => (.error e, store.counted)
  | .ok record => (.ok (record (store.lastId + 1)), store.grow kind draft record)

/-- A database in memory that takes duplicates and refused names. -/
def respondLeniently : Responder StoreProtocol MemoryStore
  | .create kind draft, store => store.createLeniently kind draft
  | request, store => respond request store

variable {store : MemoryStore} {kind other : Kind}

theorem records_list (wanted : other.Record → Bool) :
    (store.list other wanted).2.records kind = store.records kind := by
  obtain ⟨outages, heq⟩ := store.list_snd wanted
  rw [heq]
  cases kind <;> rfl

theorem keys_ids_describe (id : Int) (description : String) :
    kind.keys ((store.describe id description).2.records kind) = kind.keys (store.records kind) ∧
    kind.ids ((store.describe id description).2.records kind) = kind.ids (store.records kind) := by
  obtain heq | ⟨before, r, after, hprefixes, -, heq⟩ := store.describe_cases id description
  · rw [heq]
    exact ⟨rfl, rfl⟩
  · rw [heq]
    cases kind with
    | ipPrefix =>
      change Kind.ipPrefix.keys _ = Kind.ipPrefix.keys store.prefixes ∧
        Kind.ipPrefix.ids _ = Kind.ipPrefix.ids store.prefixes
      rw [hprefixes]
      exact Kind.keys_ids_modify rfl rfl
    | _ => exact ⟨rfl, rfl⟩

theorem keys_ids_setPrimary (device : Int) (primary : Draft.PrimaryAddress) :
    kind.keys ((store.setPrimary device primary).2.records kind) = kind.keys (store.records kind) ∧
    kind.ids ((store.setPrimary device primary).2.records kind) = kind.ids (store.records kind) := by
  rcases store.setPrimary_cases device primary with
    heq | ⟨address, -, before, r, after, hdevices, -, heq⟩
  · rw [heq]
    exact ⟨rfl, rfl⟩
  · rw [heq]
    cases kind with
    | device =>
      change Kind.device.keys _ = Kind.device.keys store.devices ∧
        Kind.device.ids _ = Kind.device.ids store.devices
      rw [hdevices]
      cases primary <;> exact Kind.keys_ids_modify rfl rfl
    | _ => exact ⟨rfl, rfl⟩

/-- A database in memory is faithful, whatever it says of a draft before it makes a record of it. -/
theorem faithful_of_create {respond' : Responder StoreProtocol MemoryStore}
    (create : ∀ kind draft store,
      (∃ e, respond' (.create kind draft) store = (.error e, store.counted)) ∨
      ∃ record, store.build kind draft = .ok record ∧ respond' (.create kind draft) store =
        (.ok (record (store.lastId + 1)), store.grow kind draft record))
    (others : ∀ request store, request.creates? = none →
      respond' request store = respond request store) : Faithful respond' WellFormed records where
  stays request store h := by
    cases request with
    | create kind draft =>
      obtain ⟨e, heq⟩ | ⟨record, hbuild, heq⟩ := create kind draft store
      · rw [heq]
        exact h.counted
      · rw [heq]
        exact h.grow hbuild
    | _ =>
      rw [others _ _ rfl]
      exact h.respond _
  list kind s s' rs h heq := by
    rw [others _ _ rfl] at heq
    have hs' : s'.records kind = s.records kind := by
      rw [show s' = (respond (.list kind) s).2 from (congrArg Prod.snd heq).symm]
      exact records_list _
    rw [list_of_ok heq, List.filter_true, hs']
  refused kind draft s s' e h heq := by
    obtain ⟨e', heq'⟩ | ⟨record, -, heq'⟩ := create kind draft s
    · cases heq'.symm.trans heq
      exact funext fun _ => records_counted
    · cases heq'.symm.trans heq
  created kind draft s s' r h heq := by
    obtain ⟨e', heq'⟩ | ⟨record, hbuild, heq'⟩ := create kind draft s
    · cases heq'.symm.trans heq
    · cases heq'.symm.trans heq
      obtain ⟨hid, hkey⟩ := id_key_of_build hbuild (s.lastId + 1)
      refine ⟨records_grow draft record, fun _ hne => records_grow_of_ne hne draft record, hkey, ?_⟩
      rw [hid]
      intro hmem
      have := h.le_lastId kind _ hmem
      omega
  kept request s h uncreating kind := by
    rw [others _ _ uncreating]
    cases request with
    | list other => exact ⟨congrArg _ (records_list _), congrArg _ (records_list _)⟩
    | listUndescribed => exact ⟨congrArg _ (records_list _), congrArg _ (records_list _)⟩
    | create => cases uncreating
    | describe id description => exact keys_ids_describe id description
    | setPrimary device primary => exact keys_ids_setPrimary device primary

theorem faithful_respond : Faithful respond WellFormed records :=
  faithful_of_create (fun kind draft store => store.create_cases kind draft) fun _ _ _ => rfl

theorem faithful_respondLeniently : Faithful respondLeniently WellFormed records := by
  refine faithful_of_create (fun kind draft store => ?_) fun request store uncreating => ?_
  · cases hbuild : store.build kind draft with
    | error e => exact .inl ⟨e, by simp [respondLeniently, createLeniently, hbuild]⟩
    | ok record => exact .inr ⟨record, rfl, by simp [respondLeniently, createLeniently, hbuild]⟩
  · cases request with
    | create kind draft => cases uncreating
    | _ => rfl

end MemoryStore

end AssetSeed
