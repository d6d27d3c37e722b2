import AssetSeed.Proofs.Reconcile.Frames
import AssetSeed.Proofs.Reconcile.Indices
import AssetSeed.Proofs.Store.History

/-!
# Nothing is lost

Whatever faults are set, a reconciliation with a database in memory appends records and makes the
allowed edits, and does nothing else to the records that were there.

## Main definitions

* `Reconcile.Kept` — the invariant of a reconciliation.
* `Reconcile.Importing` — the invariant while addresses are given to devices.

## Main statements

* `Reconcile.run_continues` — every collection goes on from what it was before.
-/

namespace AssetSeed.Reconcile

open MemoryStore (respond WellFormed Continues Allowed)

variable {hosts : List Host} {old store : MemoryStore}

/-- The database has only gone on from `old`. -/
structure Kept (hosts : List Host) (old store : MemoryStore) : Prop where
  wellFormed : store.WellFormed
  continues : Continues hosts old store

section Step

variable {request : StoreRequest} {answer : Except StoreError request.Reply} {store' : MemoryStore}

theorem snd_of_conduct (h : MemoryStore.respond.conduct request store answer store') :
    store' = (respond request store).2 :=
  (congrArg Prod.snd h).symm

/-- The step: an allowed request keeps the invariant. -/
theorem Kept.step (h : Kept hosts old store)
    (hc : MemoryStore.respond.conduct request store answer store')
    (allowed : Allowed hosts store request) : Kept hosts old store' := by
  rw [snd_of_conduct hc]
  exact ⟨h.wellFormed.respond request, h.continues.trans allowed.continues⟩

end Step

/-! ## Stages that only create -/

theorem kept_list (kind : Kind) :
    MemoryStore.respond.conduct.Preserves (Kept hosts old) (.list kind) :=
  fun _ _ _ h hc => h.step hc trivial

theorem kept_create (kind : Kind) (draft : kind.Draft) :
    MemoryStore.respond.conduct.Preserves (Kept hosts old) (.create kind draft) :=
  fun _ _ _ h hc => h.step hc trivial

theorem kept_ensure (kind : Kind) (wanted : NameIndex → List (String × kind.Draft)) :
    (Stage.ensure kind wanted).Keeps MemoryStore.respond.conduct (Kept hosts old) :=
  .ensure (kept_list kind) (kept_create kind)

theorem kept_ensurePermissions (catalog : Catalog) (groups : NameIndex) :
    (ensurePermissions catalog groups).Keeps MemoryStore.respond.conduct (Kept hosts old) :=
  (Stage.Keeps.demand (kept_list .objectType)).bind fun _ => kept_ensure .permission _

theorem kept_createDevices (existing : NameIndex) (inventory : Inventory)
    (attempted : List String) (wanted : List Host) :
    (createDevices existing inventory attempted wanted).Keeps MemoryStore.respond.conduct
      (Kept hosts old) :=
  keeps_createDevices (fun _ => keeps_createDevice (kept_create .device _) (kept_create .interface))
    existing attempted wanted

/-! ## Addresses -/

/-- The index names devices of the database. -/
def NamesDevices (devices : NameIndex) (store : MemoryStore) : Prop :=
  ∀ entry ∈ devices.entries, ∃ r ∈ store.devices, r.id = entry.2 ∧ r.name = some entry.1

theorem namesDevices_keyPairs (store : MemoryStore) :
    NamesDevices (Index.ofList (Stage.keyPairs .device store.devices)) store := by
  intro entry hentry
  obtain ⟨r, hr, hkey, hid⟩ := Stage.mem_keyPairs.1 (Index.mem_of_mem_ofList hentry)
  exact ⟨r, hr, hid, hkey⟩

theorem NamesDevices.mono {devices : NameIndex} {store' : MemoryStore}
    (h : NamesDevices devices store) (continues : Continues hosts store store') :
    NamesDevices devices store' := by
  intro entry hentry
  obtain ⟨r, hr, hid, hname⟩ := h entry hentry
  have held : r ∈ store.records .device := hr
  obtain ⟨r', hr', hedited⟩ := continues.exists_mem held
  exact ⟨r', hr', hedited.id_eq.trans hid, hedited.key_eq.trans hname⟩

/-- The database has only gone on from `old`, and the index names devices of it. -/
structure Importing (hosts : List Host) (old : MemoryStore) (devices : NameIndex)
    (store : MemoryStore) : Prop extends Kept hosts old store where
  named : NamesDevices devices store

theorem Importing.step {devices : NameIndex} {request : StoreRequest}
    {answer : Except StoreError request.Reply} {store' : MemoryStore}
    (h : Importing hosts old devices store)
    (hc : MemoryStore.respond.conduct request store answer store')
    (allowed : Allowed hosts store request) : Importing hosts old devices store' where
  toKept := h.toKept.step hc allowed
  named := by
    rw [snd_of_conduct hc]
    exact h.named.mono allowed.continues

theorem importing_demand_list (devices : NameIndex) (kind : Kind) :
    (Stage.demand (.list kind)).Keeps MemoryStore.respond.conduct (Importing hosts old devices) :=
  .demand fun _ _ _ h hc => h.step hc trivial

/-- The device of a host that the index names has the name of the host, whoever else has it. -/
theorem Importing.allowed_setPrimary {devices : NameIndex} (h : Importing hosts old devices store)
    {host : Host} (mem : host ∈ hosts) {ip : IpAddress} {key : String} {device : Int}
    (wanted : assignable? devices host = some (ip, key, device))
    (primary : Draft.PrimaryAddress) : Allowed hosts store (.setPrimary device primary) := by
  obtain ⟨hip, -, hdevice⟩ := assignable?_eq_some_iff.1 wanted
  obtain ⟨r', hr', hid', hname⟩ := h.named _ (Index.get?_eq_some_iff.1 hdevice)
  intro r hr hid
  obtain rfl : r = r' := by
    refine List.inj_on_of_nodup_map (h.wellFormed.nodup .device) hr hr' ?_
    exact hid.trans hid'.symm
  exact ⟨host, mem, by simp [hip], hname⟩

theorem importing_pointDevice {devices : NameIndex} {host : Host} (mem : host ∈ hosts)
    {ip : IpAddress} {key : String} {device : Int}
    (wanted : assignable? devices host = some (ip, key, device))
    (primary : Draft.PrimaryAddress) : (pointDevice host device primary).Keeps
      MemoryStore.respond.conduct (Importing hosts old devices) := by
  have asked : (Stage.ask (.setPrimary device primary)).Keeps MemoryStore.respond.conduct
      (Importing hosts old devices) :=
    .ask fun _ _ _ h hc => h.step hc (h.allowed_setPrimary mem wanted primary)
  refine asked.bind fun answer => ?_
  cases answer with
  | ok _ => exact .noteUpdated
  | error e => exact .tolerate _ e

theorem importing_bindAddress {devices : NameIndex} {host : Host} (mem : host ∈ hosts)
    {ip : IpAddress} {key : String} {device : Int}
    (wanted : assignable? devices host = some (ip, key, device)) (interface : Int) :
    (bindAddress host ip key device interface).Keeps MemoryStore.respond.conduct
      (Importing hosts old devices) := by
  have asked : (Stage.ask (.create .address (addressDraft key interface))).Keeps
      MemoryStore.respond.conduct (Importing hosts old devices) :=
    .ask fun _ _ _ h hc => h.step hc trivial
  refine asked.bind fun answer => ?_
  cases answer with
  | error e => exact (Stage.Keeps.tolerate key e).bind fun _ => .pure false
  | ok address =>
    exact Stage.Keeps.noteCreated.bind fun _ =>
      (importing_pointDevice mem wanted _).bind fun _ => .pure true

theorem importing_createAddresses (existing devices : NameIndex) (interfaces : Index Int)
    (assigned : List Int) {wanted : List Host} (subset : wanted ⊆ hosts) :
    (createAddresses existing devices interfaces assigned wanted).Keeps
      MemoryStore.respond.conduct (Importing hosts old devices) := by
  induction wanted generalizing assigned with
  | nil => exact .pure ()
  | cons host rest ih =>
    have later := fun assigned => ih assigned (List.subset_of_cons_subset subset)
    rw [createAddresses_cons]
    split
    · exact later assigned
    · next ip key device hwanted =>
      split
      · exact Stage.Keeps.noteSkipped.bind fun _ => later _
      · split
        · exact Stage.Keeps.noteSkipped.bind fun _ => later _
        · exact (importing_bindAddress (subset List.mem_cons_self) hwanted _).bind fun _ => later _

/-- The stage that creates devices returns an index that names devices of the database. -/
theorem kept_ensureDevices (wanted : List Host) (inventory : Inventory) (report : StageReport)
    (h : Kept hosts old store) : (ensureDevices wanted inventory).Ensures
      MemoryStore.respond.conduct (fun result _ store => Kept hosts old store ∧
        ∀ devices, result = .ok devices → NamesDevices devices store) report store := by
  have failed : ∀ (failure : Failure) (store : MemoryStore), Kept hosts old store →
      Kept hosts old store ∧ ∀ devices, Except.error failure = Except.ok devices →
        NamesDevices devices store :=
    fun failure store h => ⟨h, fun _ hdevices => nomatch hdevices⟩
  refine (Stage.Keeps.readIndex (kept_list .device) report store h).bind ?_ fun failure _ store h =>
    failed failure store h
  intro existing report store h
  refine (kept_createDevices existing inventory [] wanted report store h).bind ?_
    fun failure _ store h => failed failure store h
  intro _ report store h
  refine Stage.ensures_bind.2 (Stage.ensures_demand.2 fun answer store' hc => ?_)
  have h' : Kept hosts old store' := h.step hc trivial
  cases answer with
  | error e => exact failed _ store' h'
  | ok records =>
    refine ⟨h', fun devices hdevices => ?_⟩
    cases hdevices
    rw [MemoryStore.list_of_ok hc, List.filter_true]
    exact namesDevices_keyPairs store'

theorem importing_assignAddresses (devices : NameIndex) (interfaces : Index Int) :
    (assignAddresses hosts devices interfaces).Keeps MemoryStore.respond.conduct
      (Importing hosts old devices) := by
  have read : (Stage.readIndex .address).Keeps MemoryStore.respond.conduct
      (Importing hosts old devices) :=
    (importing_demand_list devices .address).bind fun _ => .pure _
  exact read.bind fun existing =>
    importing_createAddresses existing devices interfaces [] (List.Subset.refl hosts)

theorem kept_importNetworkMap (map : NetworkMap) (inventory : Inventory) :
    (importNetworkMap map inventory).Keeps MemoryStore.respond.conduct (Kept map.hosts old) := by
  intro report store h
  refine (kept_ensure .ipPrefix _ report store h).bind ?_ fun _ _ _ h => h
  intro _ report store h
  refine (kept_ensureDevices map.hosts inventory report h).bind ?_ fun _ _ _ h => h.1
  rintro devices report store ⟨h, named⟩
  have importing : Importing map.hosts old devices store := ⟨h, named devices rfl⟩
  have keeps : (Stage.demand (.list .interface) >>= fun interfaces =>
      assignAddresses map.hosts devices (interfaceIndex interfaces)).Keeps
        MemoryStore.respond.conduct (Importing map.hosts old devices) :=
    (importing_demand_list devices .interface).bind fun _ => importing_assignAddresses devices _
  exact (keeps report store importing).mono fun _ _ _ h => h.toKept

theorem kept_networkMapStage (source : MapSource) (inventory : Inventory) :
    (networkMapStage source inventory).Keeps MemoryStore.respond.conduct
      (Kept (MapSource.hosts (some source)) old) := by
  obtain failure | map? := source
  · exact .throw failure
  · cases map? with
    | none => exact .pure ()
    | some map => exact kept_importNetworkMap map inventory

/-! ## Descriptions -/

theorem description?_eq_some {network : Record.IpPrefix} {description : String}
    (h : description? network = some description) :
    network.description.isEmpty ∧ ∃ vrf, network.vrf = some vrf ∧ description = vrf.label := by
  rw [description?] at h
  split at h
  · next hempty =>
    obtain ⟨vrf, hvrf, hlabel⟩ := Option.map_eq_some_iff.1 (Option.filter_eq_some_iff.1 h).1
    exact ⟨hempty, vrf, hvrf, hlabel.symm⟩
  · cases h

/-- Describing a prefix leaves those with other identifiers where they are. -/
theorem kept_describePrefix {network : Record.IpPrefix} {rest : List Record.IpPrefix}
    (report : StageReport) (h : Kept hosts old store) (mem : network ∈ store.prefixes)
    (listed : rest ⊆ store.prefixes) (others : ∀ r ∈ rest, r.id ≠ network.id) :
    (describePrefix network).Ensures MemoryStore.respond.conduct
      (fun _ _ store => Kept hosts old store ∧ rest ⊆ store.prefixes) report store := by
  rw [describePrefix]
  cases hdescription : description? network with
  | none => exact ⟨h, listed⟩
  | some description =>
    refine Stage.ensures_ask_bind.2 fun answer store' hc => ?_
    have allowed : Allowed hosts store (.describe network.id description) := by
      intro r hr hid
      obtain rfl : r = network :=
        List.inj_on_of_nodup_map (h.wellFormed.nodup .ipPrefix) hr mem hid
      exact description?_eq_some hdescription
    have described : Kept hosts old store' ∧ rest ⊆ store'.prefixes := by
      refine ⟨h.step hc allowed, fun other hother => ?_⟩
      rw [snd_of_conduct hc]
      change other ∈ (store.describe network.id description).2.prefixes
      rcases store.describe_cases network.id description with
        heq | ⟨before, r, after, hprefixes, hid, heq⟩
      · rw [heq]
        exact listed hother
      · have hmem := listed hother
        have hne : other ≠ r := fun heq => others other hother (heq ▸ hid)
        rw [hprefixes] at hmem
        rw [heq]
        obtain hmem | hmem := List.mem_append.1 hmem
        · exact List.mem_append_left _ hmem
        · obtain heq | hmem := List.mem_cons.1 hmem
          · exact absurd heq hne
          · exact List.mem_append_right _ (List.mem_cons_of_mem _ hmem)
    cases answer with
    | ok _ => exact described
    | error e => exact described

theorem kept_describePrefixes {networks : List Record.IpPrefix}
    (nodup : (networks.map (·.id)).Nodup) (report : StageReport) (h : Kept hosts old store)
    (listed : networks ⊆ store.prefixes) : (describePrefixes networks).Ensures
      MemoryStore.respond.conduct (fun _ _ store => Kept hosts old store) report store := by
  induction networks generalizing report store with
  | nil => exact h
  | cons network rest ih =>
    obtain ⟨hnot, nodup⟩ := List.nodup_cons.1 nodup
    have others : ∀ r ∈ rest, r.id ≠ network.id :=
      fun r hr hid => hnot (List.mem_map.2 ⟨r, hr, hid⟩)
    rw [describePrefixes_cons]
    exact (kept_describePrefix report h (listed List.mem_cons_self)
      (List.subset_of_cons_subset listed) others).bind
        (fun _ report _ h => ih nodup report h.1 h.2) fun _ _ _ h => h.1

theorem kept_backfillDescriptions :
    backfillDescriptions.Keeps MemoryStore.respond.conduct (Kept hosts old) := by
  intro report store h
  refine Stage.ensures_bind.2 (Stage.ensures_demand.2 fun answer store' hc => ?_)
  have h' : Kept hosts old store' := h.step hc trivial
  cases answer with
  | error e => exact h'
  | ok networks =>
    have hnetworks := MemoryStore.list_of_ok hc
    refine kept_describePrefixes ?_ report h' ?_
    · rw [hnetworks]
      exact (h'.wellFormed.nodup .ipPrefix).sublist (List.filter_sublist.map _)
    · rw [hnetworks]
      exact List.filter_subset_self _

/-! ## All stages -/

theorem kept_conclude {α : Type} [Inhabited α] {stage : Stage α}
    (keeps : stage.Keeps MemoryStore.respond.conduct (Kept hosts old)) (name : StageName)
    (h : Kept hosts old store) : (stage.conclude name).Ensures MemoryStore.respond.conduct
      (fun _ store => Kept hosts old store) store :=
  keeps.conclude name h

theorem kept_runCatalog (catalog : Catalog) (palette : Palette)
    (h : Kept hosts old store) : (runCatalog catalog palette).Ensures MemoryStore.respond.conduct
      (fun _ store => Kept hosts old store) store := by
  refine (kept_conclude (kept_ensure .group _) .group h).bind fun _ _ h => ?_
  refine (kept_conclude (kept_ensurePermissions catalog _) .permission h).bind fun _ _ h => ?_
  refine (kept_conclude (kept_ensure .manufacturer _) .manufacturer h).bind fun _ _ h => ?_
  refine (kept_conclude (kept_ensure .role _) .role h).bind fun _ _ h => ?_
  refine (kept_conclude (kept_ensure .deviceType _) .deviceType h).bind fun _ _ h => ?_
  exact (kept_conclude (kept_ensure .site _) .site h).bind fun _ _ h => h

theorem kept_runNetworkMap (source? : Option MapSource) (inventory : Inventory)
    (h : Kept (MapSource.hosts source?) old store) :
    (runNetworkMap source? inventory).Ensures MemoryStore.respond.conduct
      (fun _ store => Kept (MapSource.hosts source?) old store) store := by
  cases source? with
  | none => exact h
  | some source =>
    exact (kept_conclude (kept_networkMapStage source inventory) .networkMap h).bind fun _ _ h => h

/-- After a reconciliation every collection is the old one, with at most the allowed edits,
followed by new records. -/
theorem run_continues (h : store.Reachable) (catalog : Catalog) (source? : Option MapSource)
    (palette : Palette) : Continues (MapSource.hosts source?) store
      ((run catalog source? palette).run MemoryStore.respond store).2 := by
  have start : Kept (MapSource.hosts source?) store store := ⟨h.wellFormed, .refl store⟩
  have ensured : (run catalog source? palette).Ensures MemoryStore.respond.conduct
      (fun _ new => Kept (MapSource.hosts source?) store new) store := by
    refine (kept_runCatalog catalog palette start).bind fun _ _ h => ?_
    refine (kept_runNetworkMap source? _ h).bind fun _ _ h => ?_
    exact (kept_conclude kept_backfillDescriptions .prefixDescription h).bind fun _ _ h => h
  exact ensured.run.continues

/-- A database with a prefix to describe and a device, and with faults of each kind but one. -/
def troubledStore : MemoryStore :=
  ((((MemoryStore.ofObjectTypes ["dcim.site"]).addPrefix "10.0.0.0/24" ""
    (some "office")).2.addDevice "h1").2.setOutage .site (.times 1)).refuseName "staff"

theorem troubledStore_reachable : troubledStore.Reachable :=
  ((((MemoryStore.Reachable.ofObjectTypes ["dcim.site"]).addPrefix "10.0.0.0/24" ""
    (some "office")).addDevice "h1").setOutage .site (.times 1)).refuseName "staff"

theorem run_continues_troubledStore :
    troubledStore.Reachable ∧
    Continues [{ name := "h1", address := .classify "10.0.0.5" }] troubledStore
      ((run { staffGroup := "staff", sites := ["HQ"] }
        (some (.ok (some { hosts := [{ name := "h1", address := .classify "10.0.0.5" }] })))
        default).run MemoryStore.respond troubledStore).2 :=
  ⟨troubledStore_reachable, run_continues troubledStore_reachable _
    (some (.ok (some { hosts := [{ name := "h1", address := .classify "10.0.0.5" }] }))) default⟩

end AssetSeed.Reconcile
