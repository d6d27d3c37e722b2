import AssetSeed.Proofs.Reconcile.Addresses
import AssetSeed.Proofs.Reconcile.CatalogSettling

/-!
# What a network map leaves outstanding

The stage of a network map settles the prefixes and the devices of the map. Addresses it may leave
outstanding: of the hosts that share a device, it serves one.

## Main definitions

* `NetworkMap.prefixes` — the want of the segments.
* `Reconcile.Outstanding` — a host that another reconciliation would serve.
* `Reconcile.NetworkOutcome` — what the stage has done.

## Main statements

* `Reconcile.networkMapStage_run` — the stage, in terms of the database that it leaves.
-/

namespace AssetSeed

open MemoryStore (respond Undisturbed Unchanged Grows Spares)
open StageReport (Extends)

/-- The prefixes by network alone: they may be repeated, so only refused names matter. -/
def NetworkMap.prefixes (map : NetworkMap) : Want .ipPrefix where
  keys := map.segments.map fun segment => String.ofList segment.network.text
  draft cidr := { cidr, site := none, description := "" }
  draftKey _ := rfl

namespace MemoryStore.Binds

variable {old new : MemoryStore}

theorem index_device (h : Binds old new) : new.index .device = old.index .device := by
  have pairs : ∀ store : MemoryStore, Stage.keyPairs .device (store.records .device) =
      store.deviceLabels.filterMap fun label => label.1.map (·, label.2) := by
    intro store
    rw [deviceLabels, List.filterMap_map]
    rfl
  simp only [index, pairs, h.labels]

theorem verdict_device (h : Binds old new) (draft : Draft.Device) :
    new.verdict .device draft = old.verdict .device draft := by
  have duplicate : ∀ store : MemoryStore, store.isDuplicate .device draft =
      store.deviceLabels.any fun label => label.1 = some draft.name := by
    intro store
    rw [deviceLabels, List.any_map]
    rfl
  have mentions : ∀ other ∈ Kind.device.mentions, new.records other = old.records other :=
    fun other hother => h.others other (by rintro rfl; revert hother; decide)
      (by rintro rfl; revert hother; decide)
  simp only [verdict, refusal?, h.refusedNames, duplicate, h.labels, build_congr mentions]

theorem spares (h : Binds old new) {kind : Kind}
    (apart : ∀ other ∈ kind :: kind.mentions, other ≠ .device ∧ other ≠ .address) :
    Spares kind old new where
  records other hother := h.others other (apart other hother).1 (apart other hother).2
  refusedNames := h.refusedNames

theorem undisturbed (h : Binds old new) (quiet : Undisturbed old) : Undisturbed new where
  outage kind := by simpa only [MemoryStore.outage, h.outages] using quiet.outage kind
  failingUpdates := h.failingUpdates.trans quiet.failingUpdates

end MemoryStore.Binds

namespace Reconcile

variable {store : MemoryStore} {inventory : Inventory}

theorem Equipped.of_binds {hosts : List Host} {new : MemoryStore}
    (h : Equipped inventory hosts store) (binds : store.Binds new) :
    Equipped inventory hosts new := by
  intro host hhost
  simpa only [HasDevice, binds.index_device, binds.verdict_device] using h host hhost

/-- The host has an address that is neither in the database nor refused, and there is a device of
its name with an interface. -/
def Outstanding (store : MemoryStore) (host : Host) : Prop :=
  ∃ key device, Bindable (store.index .device) (interfaceIndex store.interfaces) host key device ∧
    (store.index .address).contains key = false ∧ key ∉ store.refusedNames

/-- What the stage of a network map has done. -/
structure NetworkOutcome (map : NetworkMap) (inventory : Inventory) (store new : MemoryStore)
    (report : StageReport) : Prop where
  quiet : Undisturbed new
  spares : ∀ kind ∈ Catalog.kinds, Spares kind store new
  aborted : report.aborted = none
  prefixes : map.prefixes.Settled new
  equipped : Equipped inventory map.hosts new
  served : ∀ before host after, map.hosts = before ++ host :: after → Outstanding new host →
    ∃ other ∈ before, ∃ key device,
      Bindable (new.index .device) (interfaceIndex new.interfaces) other key device ∧
      (new.index .device).get? host.name = some device ∧
      (new.index .address).contains key ∧ (store.index .address).contains key = false
  idle : map.prefixes.Settled store → Equipped inventory map.hosts store →
    (∀ host ∈ map.hosts, ¬Outstanding store host) →
    report.created = 0 ∧ report.updated = 0 ∧ Unchanged store new
  busy : map.prefixes.Settled store → Equipped inventory map.hosts store →
    (∃ host ∈ map.hosts, Outstanding store host) → 0 < report.created

theorem ensurePrefixes_run (quiet : Undisturbed store) (inventory : Inventory) (map : NetworkMap)
    (report : StageReport) : ∃ created new,
      (ensurePrefixes map.segments inventory).runWith respond report store =
        ((.ok (new.index .ipPrefix), { report with
          created := report.created + created
          rejections := report.rejections ++ map.prefixes.refusals new }), new) ∧
      Stage.Settles map.prefixes store new created := by
  refine Stage.ensure_run quiet (fun item hitem => ?_) ?_ report
  · obtain ⟨segment, -, rfl⟩ := List.mem_map.1 hitem
    exact ⟨rfl, fun _ => rfl⟩
  · rw [List.map_map]
    rfl

theorem ensureDevices_run (quiet : Undisturbed store) (inventory : Inventory) (hosts : List Host)
    (report : StageReport) : ∃ report' new,
      (ensureDevices hosts inventory).runWith respond report store =
        ((.ok (new.index .device), report'), new) ∧
      DevicesOutcome (store.index .device) inventory [] hosts store new report report' := by
  obtain ⟨report', new, hrun, outcome⟩ := createDevices_run (fun _ h => h) inventory [] hosts report
  refine ⟨report', new, ?_, outcome⟩
  rw [ensureDevices, Stage.runWith_bind_of_ok respond (Stage.readIndex_run quiet report),
    Stage.runWith_bind_of_ok respond hrun,
    Stage.readIndex_run (outcome.grows.undisturbed quiet)]

theorem outstanding_congr {new : MemoryStore} (h : Unchanged store new) (host : Host) :
    Outstanding new host ↔ Outstanding store host := by
  obtain ⟨_, rfl⟩ := h
  exact Iff.rfl

theorem Equipped.of_unchanged {hosts : List Host} {new : MemoryStore}
    (h : Equipped inventory hosts store) (unchanged : Unchanged store new) :
    Equipped inventory hosts new :=
  h.of_binds (.of_unchanged unchanged)

section Steps

variable {map : NetworkMap} {a b c : MemoryStore} {created : Nat}
  {report₀ report₁ report : StageReport}

/-- The stages of the catalog and that of the network map are about different kinds of records. -/
theorem spares_of_steps (prefixes : Grows [.ipPrefix] store a)
    (devices : Grows [.device, .interface] a b) (addresses : b.Binds c) :
    ∀ kind ∈ Catalog.kinds, Spares kind store c := by
  intro kind hkind
  have apart : ∀ other ∈ kind :: kind.mentions, other ∉ [Kind.ipPrefix] ∧
      other ∉ [Kind.device, Kind.interface] ∧ other ≠ .device ∧ other ≠ .address := by
    revert kind
    decide
  have first : Spares kind store a := prefixes.spares fun other h => (apart other h).1
  have second : Spares kind a b := devices.spares fun other h => (apart other h).2.1
  have third : Spares kind b c := addresses.spares fun other h => (apart other h).2.2
  exact (first.trans second).trans third

/-- Before the loop over addresses nothing happens where prefixes and devices are settled. -/
theorem unchanged_of_steps (settles : Stage.Settles map.prefixes store a created)
    (devices : DevicesOutcome (a.index .device) inventory [] map.hosts a b report₀ report₁)
    (hcreated : report₀.created = created) (hupdated : report₀.updated = 0)
    (hsettled : map.prefixes.Settled store) (hequipped : Equipped inventory map.hosts store) :
    report₁.created = 0 ∧ report₁.updated = 0 ∧ Unchanged store b := by
  obtain ⟨rfl, unchanged⟩ := settles.idle hsettled
  obtain ⟨hcreated', hupdated', unchanged'⟩ := devices.idle (hequipped.of_unchanged unchanged)
  exact ⟨hcreated'.trans hcreated, hupdated'.trans hupdated, unchanged.trans unchanged'⟩

/-- The three loops of the stage, one after the other. -/
theorem NetworkOutcome.of_steps (quiet : Undisturbed store)
    (settles : Stage.Settles map.prefixes store a created)
    (devices : DevicesOutcome (a.index .device) inventory [] map.hosts a b report₀ report₁)
    (addresses : AddressesOutcome (b.index .address) (b.index .device)
      (interfaceIndex b.interfaces) [] map.hosts b c report₁ report)
    (hcreated : report₀.created = created) (hupdated : report₀.updated = 0)
    (haborted : report₀.aborted = none) : NetworkOutcome map inventory store c report where
  quiet := addresses.binds.undisturbed (devices.grows.undisturbed (settles.grows.undisturbed quiet))
  spares := spares_of_steps settles.grows devices.grows addresses.binds
  aborted := (addresses.extend.aborted.trans devices.extend.aborted).trans haborted
  prefixes := settles.settled.mono ((devices.grows.spares (by decide)).trans
    (addresses.binds.spares (by decide)))
  equipped := by
    have equipped : Equipped inventory map.hosts b := by
      intro host hhost
      exact (devices.equipped host hhost).resolve_left List.not_mem_nil
    exact equipped.of_binds addresses.binds
  served := by
    have addressesB : b.records .address = store.records .address :=
      (devices.grows.others .address (by decide)).trans (settles.grows.others .address (by decide))
    have interfacesC : c.interfaces = b.interfaces :=
      addresses.binds.others .interface (by decide) (by decide)
    rintro before host after heq ⟨key, device, bindable, habsent, hname⟩
    rw [addresses.binds.index_device, interfacesC] at bindable ⊢
    rw [addresses.binds.refusedNames] at hname
    rcases addresses.served before host after heq key device bindable with
      hold | hmem | hnew | hrefused | ⟨other, hother, key', bindable', hnew, hold⟩
    · simp [addresses.binds.contains_address hold] at habsent
    · simp at hmem
    · simp [hnew] at habsent
    · exact absurd hrefused hname
    · rw [MemoryStore.index_congr addressesB] at hold
      exact ⟨other, hother, key', device, bindable', bindable.named, hnew, hold⟩
  idle hsettled hequipped hnone := by
    obtain ⟨hcreated₁, hupdated₁, unchanged⟩ :=
      unchanged_of_steps settles devices hcreated hupdated hsettled hequipped
    obtain ⟨hcreated', hupdated', unchanged'⟩ := addresses.idle fun host hhost key device h => by
      by_contra hcontra
      rw [not_or, Bool.not_eq_true] at hcontra
      exact hnone host hhost ((outstanding_congr unchanged host).1 ⟨key, device, h, hcontra⟩)
    exact ⟨hcreated'.trans hcreated₁, hupdated'.trans hupdated₁, unchanged.trans unchanged'⟩
  busy hsettled hequipped := by
    rintro ⟨host, hhost, houtstanding⟩
    obtain ⟨hcreated₁, -, unchanged⟩ :=
      unchanged_of_steps settles devices hcreated hupdated hsettled hequipped
    obtain ⟨key, device, h, habsent, hname⟩ := (outstanding_congr unchanged host).2 houtstanding
    have busy := addresses.busy
      ⟨host, hhost, key, device, h, habsent, List.not_mem_nil, hname, habsent⟩
    omega

end Steps

theorem networkMapStage_run (quiet : Undisturbed store) (inventory : Inventory)
    (map : NetworkMap) : ∃ report new, (networkMapStage (.ok (some map)) inventory).runWith respond
      { stage := .networkMap } store = ((.ok (), report), new) ∧
      NetworkOutcome map inventory store new report := by
  obtain ⟨created, a, hprefixes, settles⟩ :=
    ensurePrefixes_run quiet inventory map { stage := .networkMap }
  have quietA := settles.grows.undisturbed quiet
  obtain ⟨report₁, b, hdevices, devices⟩ := ensureDevices_run quietA inventory map.hosts
    { stage := .networkMap, created := 0 + created, rejections := [] ++ map.prefixes.refusals a }
  have quietB := devices.grows.undisturbed quietA
  obtain ⟨report, c, haddresses, addresses⟩ := assigns_createAddresses quietB.failingUpdates
    (b.index .address) (b.index .device) (interfaceIndex b.interfaces) [] map.hosts report₁
  have listed := Stage.runWith_demand_of_ok respond (quietB.list_eq .interface) report₁
  refine ⟨report, c, ?_, .of_steps quiet settles devices addresses (Nat.zero_add created) rfl rfl⟩
  rw [networkMapStage, importNetworkMap, Stage.runWith_bind_of_ok respond hprefixes,
    Stage.runWith_bind_of_ok respond hdevices, Stage.runWith_bind_of_ok respond listed,
    assignAddresses, Stage.runWith_bind_of_ok respond (Stage.readIndex_run quietB report₁)]
  exact haddresses

end Reconcile

end AssetSeed
