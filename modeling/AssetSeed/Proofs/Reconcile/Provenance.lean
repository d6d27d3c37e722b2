import AssetSeed.Proofs.Reconcile.Indices
import AssetSeed.Proofs.Reconcile.Turns
import AssetSeed.Proofs.Stage.Ensures
import AssetSeed.Proofs.Store.Transcript

/-!
# Where identifiers come from

Nothing is assumed about the database here. A reconciliation still writes no identifier but those
that the database has returned in the same reconciliation, in the answer to a request of the right
kind.

## Main definitions

* `Transcript.Lists`, `Transcript.JustCreated` — what has been returned so far.
* `StoreRequest.Sourced` — the identifiers of a request have been returned before it.
* `Transcript.Sourced` — this holds of every request of a transcript.
* `Transcript.Grounded` — the invariant: a transcript that goes on from another one.

## Main statements

* `Reconcile.exchanges_sourced` — the transcript of a reconciliation is sourced, whoever answers.
-/

namespace AssetSeed

namespace Transcript

/-- A listing of the kind has returned a record with the identifier. -/
def Lists (said : Transcript) (kind : Kind) (id : Int) : Prop :=
  ∃ records : List kind.Record, ⟨.list kind, .ok records⟩ ∈ said ∧ ∃ r ∈ records, kind.id r = id

/-- A listing of the prefixes without description has returned one with the identifier. -/
def ListsUndescribed (said : Transcript) (id : Int) : Prop :=
  ∃ records : List Record.IpPrefix,
    ⟨.listUndescribed, .ok records⟩ ∈ said ∧ ∃ r ∈ records, r.id = id

/-- The last thing said is that a record was created, and has the identifier. -/
def JustCreated (said : Transcript) (kind : Kind) (id : Int) : Prop :=
  ∃ before draft record, said = before ++ [⟨.create kind draft, .ok record⟩] ∧ kind.id record = id

end Transcript

/-- The identifiers of a draft have been returned for records of the right kinds. -/
def Kind.Sourced (said : Transcript) : (kind : Kind) → kind.Draft → Prop
  | .group, _ => True
  | .objectType, d => nomatch d
  | .permission, d => ∀ id ∈ d.groups, said.Lists .group id
  | .manufacturer, _ => True
  | .role, _ => True
  | .deviceType, d => ∀ id ∈ d.manufacturer, said.Lists .manufacturer id
  | .site, _ => True
  | .ipPrefix, d => ∀ id ∈ d.site, said.Lists .site id
  | .device, d => (∀ id ∈ d.site, said.Lists .site id) ∧ (∀ id ∈ d.role, said.Lists .role id) ∧
      ∀ id ∈ d.deviceType, said.Lists .deviceType id
  | .interface, d => said.JustCreated .device d.device
  | .address, d => said.Lists .interface d.assignedId

/-- The identifiers of a request have been returned in what was said before it. -/
def StoreRequest.Sourced (said : Transcript) : StoreRequest → Prop
  | .list _ => True
  | .listUndescribed => True
  | .create kind draft => kind.Sourced said draft
  | .describe id _ => said.ListsUndescribed id
  | .setPrimary device address =>
    said.Lists .device device ∧ said.JustCreated .address address.id

namespace Transcript

variable {base said said' : Transcript} {kind : Kind} {id : Int}

/-- Every request has been put with identifiers that were returned before it. -/
def Sourced (said : Transcript) : Prop :=
  ∀ before exchange after, said = before ++ exchange :: after → exchange.question.Sourced before

theorem Sourced.nil : Sourced [] := by
  intro before exchange after h
  simp at h

theorem Sourced.concat (h : said.Sourced) {exchange : Exchange StoreProtocol}
    (last : exchange.question.Sourced said) : Sourced (said ++ [exchange]) := by
  intro before e after heq
  cases after using List.reverseRecOn with
  | nil =>
    obtain ⟨rfl, hlast⟩ := List.append_inj' heq rfl
    obtain rfl := List.singleton_inj.1 hlast
    exact last
  | append_singleton after e' =>
    rw [← List.cons_append, ← List.append_assoc] at heq
    exact h before e after (List.append_inj' heq rfl).1

theorem Lists.mono (h : said.Lists kind id) (later : said <+: said') : said'.Lists kind id := by
  obtain ⟨records, hmem, found⟩ := h
  exact ⟨records, later.subset hmem, found⟩

theorem ListsUndescribed.mono (h : said.ListsUndescribed id) (later : said <+: said') :
    said'.ListsUndescribed id := by
  obtain ⟨records, hmem, found⟩ := h
  exact ⟨records, later.subset hmem, found⟩

theorem justCreated_concat {draft : kind.Draft} {record : kind.Record} :
    JustCreated (said ++ [⟨.create kind draft, .ok record⟩]) kind (kind.id record) :=
  ⟨said, draft, record, rfl, rfl⟩

/-- A sourced transcript that goes on from `base`. -/
structure Grounded (base said : Transcript) : Prop where
  later : base <+: said
  sourced : said.Sourced

theorem Grounded.refl (h : said.Sourced) : Grounded said said :=
  ⟨List.prefix_rfl, h⟩

theorem Grounded.concat (h : Grounded base said) {exchange : Exchange StoreProtocol}
    (last : exchange.question.Sourced said) : Grounded base (said ++ [exchange]) where
  later := h.later.trans (List.prefix_append _ _)
  sourced := h.sourced.concat last

/-- The identifiers of the index have been returned by listings of the kind. -/
def Knows (said : Transcript) (kind : Kind) (index : NameIndex) : Prop :=
  ∀ entry ∈ index.entries, said.Lists kind entry.2

variable {index : NameIndex}

theorem knows_empty : said.Knows kind .empty := by
  simp [Knows]

theorem Knows.mono (h : said.Knows kind index) (later : said <+: said') :
    said'.Knows kind index := by
  intro entry hentry
  exact (h entry hentry).mono later

theorem Knows.get? (h : said.Knows kind index) {key : String} (hid : index.get? key = some id) :
    said.Lists kind id :=
  h _ (Index.get?_eq_some_iff.1 hid)

theorem Knows.lowest? (h : said.Knows kind index) : ∀ id ∈ index.lowest?, said.Lists kind id := by
  intro id hid
  obtain ⟨key, hmem⟩ := Index.exists_mem_of_lowest? hid
  exact h _ hmem

theorem knows_keyPairs {records : List kind.Record} (h : ⟨.list kind, .ok records⟩ ∈ said) :
    said.Knows kind (Index.ofList (Stage.keyPairs kind records)) := by
  intro entry hentry
  obtain ⟨r, hr, -, hid⟩ := Stage.mem_keyPairs.1 (Index.mem_of_mem_ofList hentry)
  exact ⟨records, h, r, hr, hid⟩

end Transcript

open Transcript

/-! ## Stages that return an index -/

namespace Stage

variable {base : Transcript} {kind : Kind}

/-- Going on from `base`, the stage stays sourced, and knows the index that it returns. -/
def Indexes (base : Transcript) (kind : Kind) (stage : Stage NameIndex) : Prop :=
  ∀ report said, Grounded base said → stage.Ensures Conduct.recorded
    (fun result _ said => Grounded base said ∧ ∀ index, result = .ok index → Knows said kind index)
    report said

theorem indexes_readIndex : (readIndex kind).Indexes base kind := by
  intro report said h
  have listing : (demand (.list kind)).Ensures Conduct.recorded (fun result _ said =>
      Grounded base said ∧ ∀ records, result = .ok records → ⟨.list kind, .ok records⟩ ∈ said)
      report said := by
    refine ensures_demand.2 fun answer said' hsaid => ?_
    subst hsaid
    refine ⟨h.concat trivial, fun records hrecords => ?_⟩
    cases answer with
    | error e => cases hrecords
    | ok found => cases hrecords; simp
  refine listing.bind ?_ ?_
  · rintro records report said ⟨hsaid, hlisted⟩
    refine ⟨hsaid, fun index hindex => ?_⟩
    cases hindex
    exact knows_keyPairs (hlisted records rfl)
  · rintro failure report said ⟨hsaid, -⟩
    exact ⟨hsaid, by simp⟩

theorem Indexes.of_keeps {stage : Stage Unit} {next : Stage NameIndex}
    (h : stage.Keeps Conduct.recorded (Grounded base)) (rest : next.Indexes base kind) :
    (stage >>= fun _ => next).Indexes base kind := by
  intro report said hsaid
  refine (h report said hsaid).bind ?_ ?_
  · intro _ report said hsaid
    exact rest report said hsaid
  · intro failure report said hsaid
    exact ⟨hsaid, by simp⟩

/-- A stage that creates what is missing is sourced if its drafts are, from its start on. -/
theorem indexes_ensure {wanted : NameIndex → List (String × kind.Draft)}
    (sourced : ∀ existing, ∀ item ∈ wanted existing, ∀ said, base <+: said →
      kind.Sourced said item.2) : (ensure kind wanted).Indexes base kind := by
  intro report said h
  refine (indexes_readIndex report said h).bind ?_ ?_
  · rintro existing report said ⟨hsaid, -⟩
    refine Indexes.of_keeps ?_ indexes_readIndex report said hsaid
    refine .createMissing fun item hitem said answer said' hsaid hsaid' => ?_
    subst hsaid'
    exact hsaid.concat (sourced existing item hitem said hsaid.later)
  · rintro failure report said ⟨hsaid, -⟩
    exact ⟨hsaid, by simp⟩

theorem Indexes.conclude {stage : Stage NameIndex} (h : stage.Indexes base kind)
    (sourced : base.Sourced) (name : StageName) : (stage.conclude name).Ensures Conduct.recorded
      (fun result said => Grounded base said ∧ Knows said kind result.2) base := by
  refine (h _ base (.refl sourced)).conclude ?_ ?_
  · rintro index report said ⟨hsaid, known⟩
    exact ⟨hsaid, known index rfl⟩
  · rintro failure report said ⟨hsaid, -⟩
    exact ⟨hsaid, knows_empty⟩

end Stage

namespace Reconcile

variable {base : Transcript}

theorem indexes_ensureGroups (catalog : Catalog) :
    (ensureGroups catalog).Indexes base .group :=
  Stage.indexes_ensure fun _ _ _ _ _ => trivial

theorem indexes_ensurePermissions (catalog : Catalog) {groups : NameIndex}
    (known : base.Knows .group groups) :
    (ensurePermissions catalog groups).Indexes base .permission := by
  intro report said h
  refine Stage.ensures_bind.2 (Stage.ensures_demand.2 fun answer said' hsaid => ?_)
  subst hsaid
  have listed : Grounded base (said ++ [⟨.list .objectType, answer⟩]) := h.concat trivial
  cases answer with
  | error e => exact ⟨listed, by simp⟩
  | ok types =>
    have granted : (Stage.ensure .permission fun _ => wantedPermissions catalog groups
        (types.map Record.ObjectType.qualifiedName)).Indexes base .permission := by
      refine Stage.indexes_ensure fun _ item hitem said later id hid => ?_
      obtain ⟨spec, -, rfl⟩ := List.mem_map.1 hitem
      obtain ⟨group, -, hgroup⟩ := List.mem_filterMap.1 hid
      exact (known.get? hgroup).mono later
    exact granted report _ listed

theorem indexes_ensureManufacturers (names : List String) :
    (ensureManufacturers names).Indexes base .manufacturer :=
  Stage.indexes_ensure fun _ _ _ _ _ => trivial

theorem indexes_ensureRoles (names : List String) (palette : Palette) :
    (ensureRoles names palette).Indexes base .role :=
  Stage.indexes_ensure fun _ _ _ _ _ => trivial

theorem indexes_ensureDeviceTypes (models : List String) {manufacturers : NameIndex}
    (known : base.Knows .manufacturer manufacturers) :
    (ensureDeviceTypes models manufacturers).Indexes base .deviceType := by
  refine Stage.indexes_ensure fun _ item hitem said later id hid => ?_
  obtain ⟨model, -, rfl⟩ := List.mem_map.1 hitem
  exact (known.lowest? id hid).mono later

theorem indexes_ensureSites (names : List String) : (ensureSites names).Indexes base .site :=
  Stage.indexes_ensure fun _ _ _ _ _ => trivial

/-- What the stage of the network map refers to has been returned by listings. -/
structure Known (said : Transcript) (inventory : Inventory) : Prop where
  roles : said.Knows .role inventory.roles
  deviceTypes : said.Knows .deviceType inventory.deviceTypes
  sites : said.Knows .site inventory.sites

theorem Known.mono {said said' : Transcript} {inventory : Inventory} (h : Known said inventory)
    (later : said <+: said') : Known said' inventory where
  roles := h.roles.mono later
  deviceTypes := h.deviceTypes.mono later
  sites := h.sites.mono later

theorem sourced_runCatalog (catalog : Catalog) (palette : Palette) {said : Transcript}
    (h : said.Sourced) : (runCatalog catalog palette).Ensures Conduct.recorded
      (fun result said => Transcript.Sourced said ∧ Known said result.2) said := by
  refine ((indexes_ensureGroups catalog).conclude h .group).bind ?_
  rintro ⟨group, groups⟩ said ⟨h, knownGroups⟩
  refine ((indexes_ensurePermissions catalog knownGroups).conclude h.sourced .permission).bind ?_
  rintro ⟨permission, permissions⟩ said ⟨h, -⟩
  refine ((indexes_ensureManufacturers catalog.manufacturers).conclude h.sourced
    .manufacturer).bind ?_
  rintro ⟨manufacturer, manufacturers⟩ said ⟨h, knownManufacturers⟩
  refine ((indexes_ensureRoles catalog.roles palette).conclude h.sourced .role).bind ?_
  rintro ⟨role, roles⟩ said ⟨h, knownRoles⟩
  refine ((indexes_ensureDeviceTypes catalog.deviceTypes
    (knownManufacturers.mono h.later)).conclude h.sourced .deviceType).bind ?_
  rintro ⟨deviceType, deviceTypes⟩ said' ⟨h', knownDeviceTypes⟩
  refine ((indexes_ensureSites catalog.sites).conclude h'.sourced .site).bind ?_
  rintro ⟨site, sites⟩ said'' ⟨h'', knownSites⟩
  exact ⟨h''.sourced, (knownRoles.mono h'.later).mono h''.later, knownDeviceTypes.mono h''.later,
    knownSites⟩

/-! ## The stage of the network map -/

theorem grounded_ask {request : StoreRequest}
    (sourced : ∀ said, base <+: said → request.Sourced said) :
    (Stage.ask request).Keeps Conduct.recorded (Grounded base) := by
  refine .ask fun said answer said' hsaid hsaid' => ?_
  subst hsaid'
  exact hsaid.concat (sourced said hsaid.later)

variable {inventory : Inventory}

theorem indexes_ensurePrefixes (segments : List Segment) (known : Known base inventory) :
    (ensurePrefixes segments inventory).Indexes base .ipPrefix := by
  refine Stage.indexes_ensure fun _ item hitem said later id hid => ?_
  obtain ⟨segment, -, rfl⟩ := List.mem_map.1 hitem
  exact (known.sites.lowest? id hid).mono later

theorem grounded_createInterface (host : Host) (device : Int) {said : Transcript}
    (h : Grounded base said) (created : said.JustCreated .device device) (report : StageReport) :
    (createInterface host device).Ensures Conduct.recorded
      (fun _ _ said => Grounded base said) report said := by
  rw [createInterface]
  cases hdraft : interfaceFor? device host.address with
  | none => exact h
  | some draft =>
    have owner : draft.device = device := interfaceFor?_device hdraft
    refine Stage.ensures_ask_bind.2 fun answer said' hsaid => ?_
    subst hsaid
    have asked : Grounded base (said ++ [⟨.create .interface draft, answer⟩]) :=
      h.concat (show said.JustCreated .device draft.device from owner ▸ created)
    cases answer with
    | ok _ => exact Stage.Keeps.noteCreated _ _ asked
    | error e => exact Stage.Keeps.tolerate _ e _ _ asked

theorem grounded_createDevice (known : Known base inventory) (host : Host) :
    (createDevice inventory host).Keeps Conduct.recorded (Grounded base) := by
  intro report said h
  refine Stage.ensures_ask_bind.2 fun answer said' hsaid => ?_
  subst hsaid
  have sourced : Kind.device.Sourced said (deviceDraft inventory host.name) :=
    ⟨(known.mono h.later).sites.lowest?, (known.mono h.later).roles.lowest?,
      (known.mono h.later).deviceTypes.lowest?⟩
  have asked : Grounded base
      (said ++ [⟨.create .device (deviceDraft inventory host.name), answer⟩]) := h.concat sourced
  cases answer with
  | ok device =>
    exact Stage.ensures_noteCreated_bind.2
      (grounded_createInterface host _ asked justCreated_concat _)
  | error e => exact Stage.Keeps.tolerate _ e _ _ asked

theorem grounded_createDevices (known : Known base inventory) (existing : NameIndex)
    (attempted : List String) (hosts : List Host) :
    (createDevices existing inventory attempted hosts).Keeps Conduct.recorded (Grounded base) := by
  induction hosts generalizing attempted with
  | nil => exact .pure ()
  | cons host rest ih =>
    rw [createDevices_cons]
    split
    · exact ih attempted
    · exact (grounded_createDevice known host).bind fun _ => ih _

theorem indexes_ensureDevices (known : Known base inventory) (hosts : List Host) :
    (ensureDevices hosts inventory).Indexes base .device := by
  intro report said h
  refine (Stage.indexes_readIndex report said h).bind ?_ ?_
  · rintro existing report said ⟨hsaid, -⟩
    exact Stage.Indexes.of_keeps (grounded_createDevices known existing [] hosts)
      Stage.indexes_readIndex report said hsaid
  · rintro failure report said ⟨hsaid, -⟩
    exact ⟨hsaid, by simp⟩

theorem primaryAddress_id (ip : IpAddress) (id : Int) : (primaryAddress ip id).id = id := by
  cases ip <;> rfl

theorem grounded_pointDevice (host : Host) {device : Int} {primary : Draft.PrimaryAddress}
    {said : Transcript} (h : Grounded base said) (listed : said.Lists .device device)
    (created : said.JustCreated .address primary.id) (report : StageReport) :
    (pointDevice host device primary).Ensures Conduct.recorded
      (fun _ _ said => Grounded base said) report said := by
  refine Stage.ensures_ask_bind.2 fun answer said' hsaid => ?_
  subst hsaid
  have asked : Grounded base (said ++ [⟨.setPrimary device primary, answer⟩]) :=
    h.concat ⟨listed, created⟩
  cases answer with
  | ok _ => exact asked
  | error e => exact Stage.Keeps.tolerate _ e _ _ asked

theorem grounded_bindAddress {device interface : Int} (listed : base.Lists .device device)
    (attached : base.Lists .interface interface) (host : Host) (ip : IpAddress) (key : String) :
    (bindAddress host ip key device interface).Keeps Conduct.recorded (Grounded base) := by
  intro report said h
  refine Stage.ensures_ask_bind.2 fun answer said' hsaid => ?_
  subst hsaid
  have asked : Grounded base (said ++ [⟨.create .address (addressDraft key interface), answer⟩]) :=
    h.concat (attached.mono h.later)
  cases answer with
  | error e =>
    exact (Stage.Keeps.tolerate key e).bind (fun _ => .pure false) _ _ asked
  | ok address =>
    have created : Transcript.JustCreated
        (said ++ [⟨.create .address (addressDraft key interface), .ok address⟩]) .address
        (primaryAddress ip address.id).id := by
      rw [primaryAddress_id]
      exact justCreated_concat
    exact Stage.ensures_noteCreated_bind.2 ((grounded_pointDevice host asked
      (listed.mono asked.later) created _).bind (fun _ _ _ h => h) fun _ _ _ h => h)

theorem grounded_createAddresses {devices : NameIndex} {interfaces : Index Int}
    (listed : base.Knows .device devices)
    (attached : ∀ entry ∈ interfaces.entries, base.Lists .interface entry.2)
    (existing : NameIndex) (assigned : List Int) (hosts : List Host) :
    (createAddresses existing devices interfaces assigned hosts).Keeps Conduct.recorded
      (Grounded base) := by
  induction hosts generalizing assigned with
  | nil => exact .pure ()
  | cons host rest ih =>
    rw [createAddresses_cons]
    split
    · exact ih assigned
    · next ip key device hwanted =>
      split
      · exact Stage.Keeps.noteSkipped.bind fun _ => ih _
      · split
        · exact Stage.Keeps.noteSkipped.bind fun _ => ih _
        · next interface hinterface =>
          have hdevice := listed.get? (assignable?_eq_some_iff.1 hwanted).2.2
          have hattached := attached _ (Index.get?_eq_some_iff.1 hinterface)
          exact (grounded_bindAddress hdevice hattached host ip key).bind fun _ => ih _

theorem grounded_assignAddresses {devices : NameIndex} {interfaces : Index Int}
    (listed : base.Knows .device devices)
    (attached : ∀ entry ∈ interfaces.entries, base.Lists .interface entry.2) (hosts : List Host) :
    (assignAddresses hosts devices interfaces).Keeps Conduct.recorded (Grounded base) := by
  intro report said h
  have existing : (Stage.readIndex .address).Indexes base .address := Stage.indexes_readIndex
  refine (existing report said h).bind ?_ ?_
  · rintro existing report said ⟨hsaid, -⟩
    exact grounded_createAddresses listed attached existing [] hosts report said hsaid
  · rintro failure report said ⟨hsaid, -⟩
    exact hsaid

theorem grounded_importNetworkMap (map : NetworkMap) (known : Known base inventory) :
    (importNetworkMap map inventory).Keeps Conduct.recorded (Grounded base) := by
  intro report said h
  refine (indexes_ensurePrefixes map.segments known report said h).bind ?_
    fun _ _ _ hsaid => hsaid.1
  rintro prefixes report said ⟨h, -⟩
  refine (indexes_ensureDevices known map.hosts report said h).bind ?_ fun _ _ _ hsaid => hsaid.1
  rintro devices report said ⟨h, knownDevices⟩
  refine Stage.ensures_bind.2 (Stage.ensures_demand.2 fun answer said' hsaid => ?_)
  subst hsaid
  have listed : Grounded base (said ++ [⟨.list .interface, answer⟩]) := h.concat trivial
  cases answer with
  | error e => exact listed
  | ok interfaces =>
    have attached : ∀ entry ∈ (interfaceIndex interfaces).entries,
        Lists (said ++ [⟨.list .interface, .ok interfaces⟩]) .interface entry.2 := by
      intro entry hentry
      obtain ⟨r, hr, hid, -⟩ := mem_of_mem_interfaceIndex hentry
      exact ⟨interfaces, by simp, r, hr, hid⟩
    have knownDevices : Knows (said ++ [⟨.list .interface, .ok interfaces⟩]) .device devices :=
      (knownDevices devices rfl).mono (List.prefix_append _ _)
    exact (grounded_assignAddresses knownDevices attached map.hosts report _
      (.refl listed.sourced)).mono fun _ _ _ hsaid => ⟨listed.later.trans hsaid.later,
        hsaid.sourced⟩

theorem grounded_networkMapStage (source : MapSource) (known : Known base inventory) :
    (networkMapStage source inventory).Keeps Conduct.recorded (Grounded base) := by
  obtain failure | map? := source
  · exact .throw failure
  · cases map? with
    | none => exact .pure ()
    | some map => exact grounded_importNetworkMap map known

/-! ## The stage of prefix descriptions -/

theorem grounded_describePrefixes {networks : List Record.IpPrefix}
    (listed : ∀ r ∈ networks, base.ListsUndescribed r.id) :
    (describePrefixes networks).Keeps Conduct.recorded (Grounded base) := by
  induction networks with
  | nil => exact .pure ()
  | cons network rest ih =>
    rw [describePrefixes_cons]
    refine .bind ?_ fun _ => ih fun r hr => listed r (List.mem_cons_of_mem _ hr)
    rw [describePrefix]
    split
    · exact .pure ()
    · refine (grounded_ask fun said later => ?_).bind fun answer => ?_
      · exact (listed network List.mem_cons_self).mono later
      · cases answer with
        | ok _ => exact Stage.Keeps.noteUpdated
        | error e => exact Stage.Keeps.noteSkipped

theorem sourced_backfillDescriptions (report : StageReport) {said : Transcript}
    (h : said.Sourced) : backfillDescriptions.Ensures Conduct.recorded
      (fun _ _ said => Transcript.Sourced said) report said := by
  refine Stage.ensures_bind.2 (Stage.ensures_demand.2 fun answer said' hsaid => ?_)
  subst hsaid
  have asked : Transcript.Sourced (said ++ [⟨.listUndescribed, answer⟩]) := h.concat trivial
  cases answer with
  | error e => exact asked
  | ok networks =>
    have listed : ∀ r ∈ networks,
        ListsUndescribed (said ++ [⟨.listUndescribed, .ok networks⟩]) r.id :=
      fun r hr => ⟨networks, by simp, r, hr, rfl⟩
    exact (grounded_describePrefixes listed report _ (.refl asked)).mono
      fun _ _ _ hsaid => hsaid.sourced

/-! ## All stages -/

theorem sourced_runNetworkMap (source? : Option MapSource) (known : Known base inventory)
    (h : base.Sourced) : (runNetworkMap source? inventory).Ensures Conduct.recorded
      (fun _ said => Transcript.Sourced said) base := by
  cases source? with
  | none => exact h
  | some source =>
    have stage : ((networkMapStage source inventory).conclude .networkMap).Ensures
        Conduct.recorded (fun _ said => Transcript.Sourced said) base := by
      refine (grounded_networkMapStage source known _ base (.refl h)).conclude ?_ ?_
      · intro _ report said hsaid
        exact hsaid.sourced
      · intro failure report said hsaid
        exact hsaid.sourced
    exact stage.bind fun _ _ hsaid => hsaid

/-- Each identifier that a reconciliation writes was returned in it before, for a record of the
right kind, whoever answers and whatever the answers are. -/
theorem exchanges_sourced {σ : Type} (respond : Responder StoreProtocol σ) (s : σ)
    (catalog : Catalog) (source? : Option MapSource) (palette : Palette) :
    Transcript.Sourced ((run catalog source? palette).exchanges respond s) := by
  have ensured : (run catalog source? palette).Ensures Conduct.recorded
      (fun _ said => Transcript.Sourced said) [] := by
    refine (sourced_runCatalog catalog palette Sourced.nil).bind ?_
    rintro ⟨reports, inventory⟩ said ⟨h, known⟩
    refine (sourced_runNetworkMap source? known h).bind fun mapReports said h => ?_
    have described : (backfillDescriptions.conclude .prefixDescription).Ensures
        Conduct.recorded (fun _ said => Transcript.Sourced said) said :=
      (sourced_backfillDescriptions _ h).conclude (fun _ _ _ hsaid => hsaid)
        fun _ _ _ hsaid => hsaid
    exact described.bind fun _ _ hsaid => hsaid
  exact ensured.exchanges s

end Reconcile

end AssetSeed
