import AssetSeed.Store.Memory

/-!
# What a request does to a database in memory

## Main definitions

* `StoreRequest.touches?` — the collection that a request is about, if it may change one.
* `MemoryStore.verdict` — why a draft is refused, if it is.
* `MemoryStore.counted`, `MemoryStore.grow` — the database after a create that was refused, and
  after one that was accepted.
* `MemoryStore.Effect` — the database after a request.

## Main statements

* `MemoryStore.create_of_verdict`, `MemoryStore.exists_create_eq_grow` — the two outcomes of a
  create.
* `MemoryStore.describe_cases`, `MemoryStore.setPrimary_cases` — the outcomes of an update.
* `MemoryStore.effect_respond` — all that a request may do.
-/

namespace AssetSeed

/-- The kind of the records that a request may add to or change. -/
def StoreRequest.touches? : StoreRequest → Option Kind
  | .list _ => none
  | .listUndescribed => none
  | .create kind _ => some kind
  | .describe _ _ => some .ipPrefix
  | .setPrimary _ _ => some .device

namespace MemoryStore

variable {store : MemoryStore} {kind other : Kind}

/-! ## Collections -/

@[simp] theorem records_setRecords (rs : List kind.Record) :
    (store.setRecords kind rs).records kind = rs := by
  cases kind <;> rfl

theorem records_setRecords_of_ne (h : other ≠ kind) (rs : List kind.Record) :
    (store.setRecords kind rs).records other = store.records other := by
  cases kind <;> cases other <;> first | rfl | exact absurd rfl h

@[simp] theorem lastId_setRecords (rs : List kind.Record) :
    (store.setRecords kind rs).lastId = store.lastId := by
  cases kind <;> rfl

@[simp] theorem records_append (record : Int → kind.Record) :
    (store.append kind record).2.records kind = store.records kind ++ [record (store.lastId + 1)] :=
  records_setRecords _

theorem records_append_of_ne (h : other ≠ kind) (record : Int → kind.Record) :
    (store.append kind record).2.records other = store.records other := by
  rw [append, records_setRecords_of_ne h]
  cases other <;> rfl

@[simp] theorem lastId_append (record : Int → kind.Record) :
    (store.append kind record).2.lastId = store.lastId + 1 :=
  lastId_setRecords _

@[simp] theorem records_keepDraft (draft : kind.Draft) :
    (store.keepDraft kind draft).records other = store.records other := by
  cases kind <;> cases other <;> rfl

@[simp] theorem lastId_keepDraft (draft : kind.Draft) :
    (store.keepDraft kind draft).lastId = store.lastId := by
  cases kind <;> rfl

/-! ## Creating -/

/-- The database with one more create counted. -/
def counted (store : MemoryStore) : MemoryStore :=
  { store with createCalls := store.createCalls + 1 }

@[simp] theorem records_counted : store.counted.records kind = store.records kind := by
  cases kind <;> rfl

@[simp] theorem lastId_counted : store.counted.lastId = store.lastId := rfl

/-- Why a draft is refused, if it is: for its key, or for what it refers to. -/
def verdict (store : MemoryStore) (kind : Kind) (draft : kind.Draft) : Option StoreError :=
  match store.refusal? (kind.draftKey draft) (store.isDuplicate kind draft) with
  | some e => some e
  | none =>
    match store.build kind draft with
    | .error e => some e
    | .ok _ => none

/-- The database after a create that was accepted. -/
def grow (store : MemoryStore) (kind : Kind) (draft : kind.Draft) (record : Int → kind.Record) :
    MemoryStore :=
  (store.counted.append kind record).2.keepDraft kind draft

@[simp] theorem records_grow (draft : kind.Draft) (record : Int → kind.Record) :
    (store.grow kind draft record).records kind =
      store.records kind ++ [record (store.lastId + 1)] := by
  simp [grow]

theorem records_grow_of_ne (h : other ≠ kind) (draft : kind.Draft)
    (record : Int → kind.Record) :
    (store.grow kind draft record).records other = store.records other := by
  simp [grow, records_append_of_ne h]

@[simp] theorem lastId_grow (draft : kind.Draft) (record : Int → kind.Record) :
    (store.grow kind draft record).lastId = store.lastId + 1 := by
  simp [grow]

@[simp] theorem refusedNames_grow (draft : kind.Draft) (record : Int → kind.Record) :
    (store.grow kind draft record).refusedNames = store.refusedNames := by
  cases kind <;> rfl

@[simp] theorem outages_grow (draft : kind.Draft) (record : Int → kind.Record) :
    (store.grow kind draft record).outages = store.outages := by
  cases kind <;> rfl

@[simp] theorem failingUpdates_grow (draft : kind.Draft) (record : Int → kind.Record) :
    (store.grow kind draft record).failingUpdates = store.failingUpdates := by
  cases kind <;> rfl

theorem permissionDrafts_grow (draft : kind.Draft) (record : Int → kind.Record) :
    store.permissionDrafts <+: (store.grow kind draft record).permissionDrafts := by
  cases kind <;> first | exact List.prefix_rfl | exact List.prefix_append _ _

theorem deviceDrafts_grow (draft : kind.Draft) (record : Int → kind.Record) :
    store.deviceDrafts <+: (store.grow kind draft record).deviceDrafts := by
  cases kind <;> first | exact List.prefix_rfl | exact List.prefix_append _ _

theorem create_eq (draft : kind.Draft) : store.create kind draft =
    match store.refusal? (kind.draftKey draft) (store.isDuplicate kind draft) with
    | some e => (.error e, store.counted)
    | none =>
      match store.build kind draft with
      | .error e => (.error e, store.counted)
      | .ok record => (.ok (record (store.lastId + 1)), store.grow kind draft record) := by
  cases kind <;> rfl

/-- A draft that is refused changes nothing but the count of creates. -/
theorem create_of_verdict {draft : kind.Draft} {e : StoreError}
    (h : store.verdict kind draft = some e) :
    store.create kind draft = (.error e, store.counted) := by
  rw [create_eq]
  cases hr : store.refusal? (kind.draftKey draft) (store.isDuplicate kind draft) with
  | some e' =>
    obtain rfl : e' = e := by simpa [verdict, hr] using h
    rfl
  | none =>
    cases hb : store.build kind draft with
    | error e' =>
      obtain rfl : e' = e := by simpa [verdict, hr, hb] using h
      rfl
    | ok record => simp [verdict, hr, hb] at h

/-- A draft that is not refused becomes a record with the next identifier. -/
theorem exists_create_eq_grow {draft : kind.Draft} (h : store.verdict kind draft = none) :
    ∃ record, store.build kind draft = .ok record ∧
      store.create kind draft =
        (.ok (record (store.lastId + 1)), store.grow kind draft record) := by
  rw [create_eq]
  cases hr : store.refusal? (kind.draftKey draft) (store.isDuplicate kind draft) with
  | some e' => simp [verdict, hr] at h
  | none =>
    cases hb : store.build kind draft with
    | error e' => simp [verdict, hr, hb] at h
    | ok record => exact ⟨record, rfl, rfl⟩

theorem create_cases (store : MemoryStore) (kind : Kind) (draft : kind.Draft) :
    (∃ e, store.create kind draft = (.error e, store.counted)) ∨
    ∃ record, store.build kind draft = .ok record ∧
      store.create kind draft =
        (.ok (record (store.lastId + 1)), store.grow kind draft record) := by
  cases h : store.verdict kind draft with
  | some e => exact .inl ⟨e, create_of_verdict h⟩
  | none => exact .inr (exists_create_eq_grow h)

theorem respond_create_of_verdict {draft : kind.Draft} {e : StoreError}
    (h : store.verdict kind draft = some e) :
    respond (.create kind draft) store = (.error e, store.counted) :=
  create_of_verdict h

theorem exists_respond_create_eq_grow {draft : kind.Draft} (h : store.verdict kind draft = none) :
    ∃ record, store.build kind draft = .ok record ∧
      respond (.create kind draft) store =
        (.ok (record (store.lastId + 1)), store.grow kind draft record) :=
  exists_create_eq_grow h

/-- A record that is made has the identifier it is given and the key of its draft. -/
theorem id_key_of_build {draft : kind.Draft} {record : Int → kind.Record}
    (h : store.build kind draft = .ok record) (id : Int) :
    kind.id (record id) = id ∧ kind.key? (record id) = some (kind.draftKey draft) := by
  cases kind with
  | objectType => exact draft.elim
  | deviceType | device | interface =>
    rw [build] at h
    split at h
    · cases h
      exact ⟨rfl, rfl⟩
    · cases h
  | _ =>
    cases h
    exact ⟨rfl, rfl⟩

/-! ## Listing -/

theorem list_snd (wanted : kind.Record → Bool) :
    ∃ outages, (store.list kind wanted).2 = { store with outages } := by
  rw [list, checkListing]
  cases store.outage kind with
  | forever => exact ⟨store.outages, rfl⟩
  | times n =>
    cases n with
    | zero => exact ⟨store.outages, rfl⟩
    | succ n => exact ⟨_, rfl⟩

/-- A listing that does not fail shows what the collection holds then. -/
theorem list_of_ok {store' : MemoryStore} {wanted : kind.Record → Bool} {rs : List kind.Record}
    (h : store.list kind wanted = (.ok rs, store')) : rs = (store'.records kind).filter wanted := by
  rw [list] at h
  split at h <;> cases h
  rfl

theorem list_of_outage (h : store.outage kind = .times 0) (wanted : kind.Record → Bool) :
    store.list kind wanted = (.ok ((store.records kind).filter wanted), store) := by
  rw [list, checkListing, h]

/-! ## Updating -/

theorem exists_of_modifyFirst {α : Type} {idOf : α → Int} {id : Int} {change : α → α}
    {rs rs' : List α} {r : α} (h : modifyFirst idOf id change rs = some (r, rs')) :
    ∃ before old after, rs = before ++ old :: after ∧ idOf old = id ∧ r = change old ∧
      rs' = before ++ change old :: after := by
  induction rs generalizing rs' with
  | nil => cases h
  | cons first rest ih =>
    rw [modifyFirst] at h
    split at h
    · next hid =>
      cases h
      exact ⟨[], first, rest, rfl, hid, rfl, rfl⟩
    · obtain ⟨⟨found, rest'⟩, hrest, heq⟩ := Option.map_eq_some_iff.1 h
      cases heq
      obtain ⟨before, old, after, rfl, hid, hr, rfl⟩ := ih hrest
      exact ⟨first :: before, old, after, rfl, hid, hr, rfl⟩

/-- Where identifiers differ, the record that is changed is the only one with the identifier. -/
theorem modifyFirst_of_nodup {α : Type} {idOf : α → Int} {change : α → α} {rs : List α}
    (nodup : (rs.map idOf).Nodup) {r : α} (hr : r ∈ rs) :
    modifyFirst idOf (idOf r) change rs =
      some (change r, rs.map fun x => if idOf x = idOf r then change x else x) := by
  induction rs with
  | nil => cases hr
  | cons first rest ih =>
    obtain ⟨hnot, nodup⟩ := List.nodup_cons.1 nodup
    rw [modifyFirst, List.map_cons]
    by_cases hid : idOf first = idOf r
    · have same : r = first := by
        obtain h | h := List.mem_cons.1 hr
        · exact h
        · exact absurd (List.mem_map.2 ⟨r, h, hid.symm⟩) hnot
      subst same
      have others : rest.map (fun x => if idOf x = idOf r then change x else x) = rest.map id :=
        List.map_congr_left fun x hx => if_neg fun h => hnot (List.mem_map.2 ⟨x, hx, h⟩)
      rw [if_pos rfl, if_pos rfl, others, List.map_id]
    · have hrest : r ∈ rest := by
        obtain rfl | h := List.mem_cons.1 hr
        · exact absurd rfl hid
        · exact h
      rw [if_neg hid, if_neg hid, ih nodup hrest]
      rfl

/-- A description is changed in one prefix of the identifier, or nothing is. -/
theorem describe_cases (store : MemoryStore) (id : Int) (description : String) :
    (store.describe id description).2 = store ∨
    ∃ before r after, store.prefixes = before ++ r :: after ∧ r.id = id ∧
      (store.describe id description).2 =
        { store with prefixes := before ++ { r with description } :: after } := by
  rw [describe]
  split
  · exact .inl rfl
  · split
    · next hfound =>
      obtain ⟨before, old, after, hprefixes, hid, -, rfl⟩ := exists_of_modifyFirst hfound
      exact .inr ⟨before, old, after, hprefixes, hid, rfl⟩
    · exact .inl rfl

/-- A primary address is changed in one device of the identifier, or nothing is. -/
theorem setPrimary_cases (store : MemoryStore) (device : Int) (primary : Draft.PrimaryAddress) :
    (store.setPrimary device primary).2 = store ∨
    ∃ address ∈ store.addresses, ∃ before r after,
      store.devices = before ++ r :: after ∧ r.id = device ∧
      (store.setPrimary device primary).2 =
        { store with devices := before ++ withPrimary r address primary :: after } := by
  rw [setPrimary]
  split
  · exact .inl rfl
  · split
    · exact .inl rfl
    · next address haddress =>
      split
      · next hfound =>
        obtain ⟨before, old, after, hdevices, hid, -, rfl⟩ := exists_of_modifyFirst hfound
        exact .inr ⟨address, List.mem_of_find?_eq_some haddress, before, old, after, hdevices,
          hid, rfl⟩
      · exact .inl rfl

/-! ## What becomes of the database -/

/-- What a request may do to the database. -/
inductive Effect (store : MemoryStore) : StoreRequest → MemoryStore → Prop where
  | listed (kind : Kind) (outages : List (Kind × Outage)) :
    Effect store (.list kind) { store with outages }
  | listedUndescribed (outages : List (Kind × Outage)) :
    Effect store .listUndescribed { store with outages }
  | refused {kind : Kind} {draft : kind.Draft} {e : StoreError}
    (refused : store.verdict kind draft = some e) : Effect store (.create kind draft) store.counted
  | created {kind : Kind} {draft : kind.Draft} {record : Int → kind.Record}
    (accepted : store.verdict kind draft = none) (made : store.build kind draft = .ok record) :
    Effect store (.create kind draft) (store.grow kind draft record)
  | described (id : Int) (description : String) (prefixes : List Record.IpPrefix) :
    Effect store (.describe id description) { store with prefixes }
  | pointed (device : Int) (primary : Draft.PrimaryAddress) (devices : List Record.Device) :
    Effect store (.setPrimary device primary) { store with devices }

theorem effect_respond (store : MemoryStore) (request : StoreRequest) :
    Effect store request (respond request store).2 := by
  cases request with
  | list kind =>
    obtain ⟨outages, heq⟩ := store.list_snd fun _ : kind.Record => true
    exact heq ▸ .listed kind outages
  | listUndescribed =>
    obtain ⟨outages, heq⟩ := store.list_snd fun r : Kind.Record .ipPrefix => r.description.isEmpty
    exact heq ▸ .listedUndescribed outages
  | create kind draft =>
    cases h : store.verdict kind draft with
    | some e => exact congrArg Prod.snd (create_of_verdict h) ▸ .refused h
    | none =>
      obtain ⟨record, made, heq⟩ := exists_create_eq_grow h
      exact congrArg Prod.snd heq ▸ .created h made
  | describe id description =>
    rw [respond]
    obtain heq | ⟨_, _, _, -, -, heq⟩ := store.describe_cases id description <;> rw [heq]
    · exact .described id description store.prefixes
    · exact .described id description _
  | setPrimary device primary =>
    rw [respond]
    obtain heq | ⟨_, -, _, _, _, -, -, heq⟩ := store.setPrimary_cases device primary <;> rw [heq]
    · exact .pointed device primary store.devices
    · exact .pointed device primary _

theorem effect_of_respond {answer : StoreProtocol.Answer request}
    (h : respond request store = (answer, store')) : Effect store request store' := by
  have effect := effect_respond store request
  rwa [h] at effect

theorem records_of_ne_ipPrefix (prefixes : List Record.IpPrefix) (ne : kind ≠ .ipPrefix) :
    { store with prefixes }.records kind = store.records kind := by
  cases kind <;> first | rfl | exact absurd rfl ne

theorem records_of_ne_device (devices : List Record.Device) (ne : kind ≠ .device) :
    { store with devices }.records kind = store.records kind := by
  cases kind <;> first | rfl | exact absurd rfl ne

theorem Effect.records_of_ne {request : StoreRequest} {store' : MemoryStore}
    (h : Effect store request store') (ne : request.touches? ≠ some kind) :
    store'.records kind = store.records kind := by
  cases h with
  | listed | listedUndescribed => cases kind <;> rfl
  | refused => exact records_counted
  | @created other draft record =>
    exact records_grow_of_ne (fun heq => ne (congrArg some heq.symm)) draft record
  | described => exact records_of_ne_ipPrefix _ fun heq => ne (congrArg some heq.symm)
  | pointed => exact records_of_ne_device _ fun heq => ne (congrArg some heq.symm)

end MemoryStore

end AssetSeed
