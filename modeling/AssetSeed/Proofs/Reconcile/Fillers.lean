import AssetSeed.Proofs.Dialogue.Overheard
import AssetSeed.Proofs.Reconcile.Chronicle
import AssetSeed.Proofs.Reconcile.Frames
import AssetSeed.Proofs.Reconcile.MapIdempotence
import AssetSeed.Proofs.Reconcile.Settling
import AssetSeed.Proofs.Store.Faithful

/-!
# References that nobody named

A device type needs a manufacturer, a prefix a site, a device a site, a role and a device type. What
is sent is the smallest identifier in the index of the collection. An index has one record of each
name, the last one. So this is the smallest identifier of the collection where names differ, and
need not be where they repeat.

## Main definitions

* `StandIn` — what is sent as a reference to some record of a collection.
* `StoreRequest.Filled` — the references of a request that nobody named.
* `Knowledge` — an index that a stage has returned, with the report of the stage.
* `Informed` — the invariant: indices are those of the collections, and requests have been filled.

## Main statements

* `Reconcile.run_filled` — at every moment of a reconciliation the request is filled in view of the
  database as it is then.
* `Reconcile.run_namesakes` — two records of one name, and the smallest identifier is not sent.
-/

namespace AssetSeed

open Reconcile
open MemoryStore (respond)

/-! ## The record that stands in -/

theorem Kind.lastOf_of_nodup {kind : Kind} {records : List kind.Record} {r : kind.Record}
    {key : String} (nodup : (kind.keys records).Nodup) (mem : r ∈ records)
    (hkey : kind.key? r = some key) : kind.LastOf records key r := by
  obtain ⟨before, after, rfl⟩ := List.append_of_mem mem
  refine ⟨hkey, before, after, rfl, fun r' hr' hkey' => ?_⟩
  have keys : kind.keys (before ++ r :: after) = kind.keys before ++ key :: kind.keys after := by
    simp [Kind.keys, hkey]
  rw [keys] at nodup
  exact (List.nodup_cons.1 nodup.of_append_right).1 (Kind.mem_keys.2 ⟨r', hr', hkey'⟩)

/-- The identifier is sent as a reference to some record of the collection. -/
structure StandIn (kind : Kind) (aborted : Prop) (records : List kind.Record) (id? : Option Int) :
    Prop where
  /-- None is sent only if there is no record, or the stage that reads the collection was aborted.
  -/
  absent : id? = none → aborted ∨ records = []
  /-- One that is sent belongs to the last record of some key. -/
  last : ∀ id ∈ id?, ∃ key r, kind.LastOf records key r ∧ kind.id r = id
  /-- No other record that is the last one of its key has a smaller one. -/
  lowest : ∀ id ∈ id?, ∀ key r, kind.LastOf records key r → id ≤ kind.id r
  /-- Where keys differ, no other record has a smaller one. -/
  least : (kind.keys records).Nodup → ∀ id ∈ id?, ∀ r ∈ records, id ≤ kind.id r

theorem StandIn.mono {kind : Kind} {aborted aborted' : Prop} {records : List kind.Record}
    {id? : Option Int} (h : StandIn kind aborted records id?) (imp : aborted → aborted') :
    StandIn kind aborted' records id? :=
  { h with absent := fun none => (h.absent none).imp_left imp }

/-- Every record of the kind has a key. -/
def Kind.Keyed (kind : Kind) : Prop :=
  ∀ r, (kind.key? r).isSome

theorem standIn_index {kind : Kind} (keyed : kind.Keyed) (aborted : Prop) (store : MemoryStore) :
    StandIn kind aborted (store.records kind) (store.index kind).lowest? := by
  have lowest : ∀ id ∈ (store.index kind).lowest?, ∀ key r,
      kind.LastOf (store.records kind) key r → id ≤ kind.id r := by
    intro id hid key r hlast
    exact Index.le_of_lowest? hid (Stage.mem_entries_keyPairs.2 ⟨r, hlast, rfl⟩)
  constructor
  case absent =>
    intro none
    refine .inr (List.eq_nil_iff_forall_not_mem.2 fun r hr => ?_)
    obtain ⟨key, hkey⟩ := Option.isSome_iff_exists.1 (keyed r)
    have present := Index.contains_iff.1 (MemoryStore.contains_index.2 ⟨r, hr, hkey⟩)
    simp [Index.lowest?_eq_none_iff.1 none] at present
  case last =>
    intro id hid
    obtain ⟨key, hmem⟩ := Index.exists_mem_of_lowest? hid
    obtain ⟨r, hlast, rfl⟩ := Stage.mem_entries_keyPairs.1 hmem
    exact ⟨key, r, hlast, rfl⟩
  case lowest => exact lowest
  case least =>
    intro nodup id hid r hr
    obtain ⟨key, hkey⟩ := Option.isSome_iff_exists.1 (keyed r)
    exact lowest id hid key r (Kind.lastOf_of_nodup nodup hr hkey)

/-- Some record stands in for each reference of the request that nobody named. -/
def StoreRequest.Filled (aborted : Kind → Prop) (request : StoreRequest) (store : MemoryStore) :
    Prop :=
  match request with
  | .create .deviceType draft =>
    StandIn .manufacturer (aborted .manufacturer) store.manufacturers draft.manufacturer
  | .create .ipPrefix draft => StandIn .site (aborted .site) store.sites draft.site
  | .create .device draft =>
    StandIn .site (aborted .site) store.sites draft.site ∧
    StandIn .role (aborted .role) store.roles draft.role ∧
    StandIn .deviceType (aborted .deviceType) store.deviceTypes draft.deviceType
  | _ => True

theorem StoreRequest.Filled.mono {aborted aborted' : Kind → Prop} {request : StoreRequest}
    {store : MemoryStore} (h : request.Filled aborted store)
    (imp : ∀ kind, aborted kind → aborted' kind) : request.Filled aborted' store := by
  unfold Filled at h ⊢
  split
  · exact h.mono (imp _)
  · exact h.mono (imp _)
  · exact ⟨h.1.mono (imp _), h.2.1.mono (imp _), h.2.2.mono (imp _)⟩
  · trivial

/-! ## What is known of a database -/

/-- The index of a collection that a stage has returned, and the report of the stage. -/
structure Knowledge where
  kind : Kind
  report : StageReport
  index : NameIndex

namespace Knowledge

/-- The index is that of the collection, unless the stage was aborted. -/
def Current (known : Knowledge) (store : MemoryStore) : Prop :=
  (known.report.aborted.isSome ∧ known.index = .empty) ∨ known.index = store.index known.kind

/-- A stage that was to read the collection was aborted. -/
def Aborted (knowns : List Knowledge) (kind : Kind) : Prop :=
  ∃ known ∈ knowns, known.kind = kind ∧ known.report.aborted.isSome

variable {known : Knowledge} {knowns : List Knowledge} {store store' : MemoryStore}

theorem Current.standIn (h : known.Current store) (mem : known ∈ knowns)
    (keyed : known.kind.Keyed) : StandIn known.kind (Aborted knowns known.kind)
      (store.records known.kind) known.index.lowest? := by
  obtain ⟨aborted, hindex⟩ | hindex := h
  · rw [hindex]
    constructor
    case absent => exact fun _ => .inl ⟨known, mem, rfl, aborted⟩
    all_goals simp [Index.lowest?]
  · rw [hindex]
    exact standIn_index keyed _ store

theorem Current.congr (h : known.Current store)
    (records : store'.records known.kind = store.records known.kind) : known.Current store' := by
  simpa only [Current, MemoryStore.index_congr records] using h

end Knowledge

/-- What a reconciliation knows of the database is current, and whatever it has asked for was filled
in view of the database as it was then. -/
structure Informed (knowns : List Knowledge)
    (watched : MemoryStore × List (StoreRequest × MemoryStore)) : Prop where
  current : ∀ known ∈ knowns, known.Current watched.1
  filled : ∀ moment ∈ watched.2, moment.1.Filled (Knowledge.Aborted knowns) moment.2

namespace Informed

variable {knowns : List Knowledge} {kind : Kind}
  {watched : MemoryStore × List (StoreRequest × MemoryStore)}

theorem cons (h : Informed knowns watched) {known : Knowledge} (current : known.Current watched.1) :
    Informed (known :: knowns) watched where
  current := List.forall_mem_cons.2 ⟨current, h.current⟩
  filled moment hmoment := by
    refine (h.filled moment hmoment).mono ?_
    rintro kind ⟨known, hmem, aborted⟩
    exact ⟨known, List.mem_cons_of_mem _ hmem, aborted⟩

/-- A request that is filled and does not touch the collections that are known. -/
theorem preserves {request : StoreRequest}
    (apart : ∀ known ∈ knowns, request.touches? ≠ some known.kind)
    (filled : ∀ store, (∀ known ∈ knowns, known.Current store) →
      request.Filled (Knowledge.Aborted knowns) store) :
    (respond.watched).Preserves (Informed knowns) request := by
  rintro ⟨store, seen⟩ answer ⟨store', _⟩ h ⟨hrespond, rfl⟩
  constructor
  case current =>
    intro known hmem
    have effect := MemoryStore.effect_of_respond hrespond
    exact (h.current known hmem).congr (effect.records_of_ne (apart known hmem))
  case filled =>
    exact List.forall_mem_append.2 ⟨h.filled, List.forall_mem_singleton.2 (filled store h.current)⟩

theorem preserves_list (listed : Kind) :
    (respond.watched).Preserves (Informed knowns) (.list listed) :=
  preserves (fun _ _ => nofun) fun _ _ => trivial

end Informed

namespace Reconcile

variable {knowns : List Knowledge} {kind : Kind}
  {watched : MemoryStore × List (StoreRequest × MemoryStore)}

/-! ## Stages -/

/-- The stage keeps what is known current, and the index that it returns is current too. -/
def Informs (knowns : List Knowledge) (kind : Kind) (stage : Stage NameIndex) : Prop :=
  ∀ report watched, Informed knowns watched → stage.Ensures respond.watched
    (fun result _ watched => Informed knowns watched ∧
      ∀ index, result = .ok index → index = watched.1.index kind) report watched

theorem informs_readIndex (knowns : List Knowledge) (kind : Kind) :
    Informs knowns kind (Stage.readIndex kind) := by
  intro report watched informed
  refine Stage.ensures_readIndex.2 fun answer watched' hc => ?_
  have informed' := Informed.preserves_list kind watched answer watched' informed hc
  cases answer with
  | error e => exact ⟨informed', nofun⟩
  | ok records =>
    refine ⟨informed', fun index hindex => ?_⟩
    cases hindex
    exact MemoryStore.index_of_list_ok hc.1

theorem informs_ensure {wanted : NameIndex → List (String × kind.Draft)}
    (apart : ∀ known ∈ knowns, kind ≠ known.kind)
    (filled : ∀ existing, ∀ item ∈ wanted existing, ∀ store,
      (∀ known ∈ knowns, known.Current store) →
        StoreRequest.Filled (Knowledge.Aborted knowns) (.create kind item.2) store) :
    Informs knowns kind (Stage.ensure kind wanted) := by
  intro report watched informed
  have creates (existing : NameIndex) :
      (Stage.createMissing kind existing [] (wanted existing)).Keeps respond.watched
        (Informed knowns) :=
    .createMissing fun item hitem => Informed.preserves
      (fun known hmem heq => apart known hmem (Option.some.inj heq)) (filled existing item hitem)
  refine (informs_readIndex knowns kind report watched informed).bind ?_
    fun _ _ _ h => ⟨h.1, nofun⟩
  rintro existing report watched ⟨informed, -⟩
  refine (creates existing report watched informed).bind ?_ fun _ _ _ informed => ⟨informed, nofun⟩
  exact fun _ report watched informed => informs_readIndex knowns kind report watched informed

theorem Informs.conclude {stage : Stage NameIndex} (h : Informs knowns kind stage)
    (name : StageName) (informed : Informed knowns watched) :
    (stage.conclude name).Ensures respond.watched (fun result watched =>
      Informed (⟨kind, result.1, result.2⟩ :: knowns) watched) watched := by
  refine (h { stage := name } watched informed).conclude ?_ ?_
  · rintro index report watched ⟨informed, current⟩
    exact informed.cons (.inr (current index rfl))
  · rintro failure report watched ⟨informed, -⟩
    exact informed.cons (.inl ⟨rfl, rfl⟩)

/-- What is known after the stages of the catalog have left their reports and the inventory. -/
def knowledge (inventory : Inventory)
    (group permission manufacturer role deviceType site : StageReport) : List Knowledge :=
  [⟨.site, site, inventory.sites⟩, ⟨.deviceType, deviceType, inventory.deviceTypes⟩,
    ⟨.role, role, inventory.roles⟩, ⟨.manufacturer, manufacturer, inventory.manufacturers⟩,
    ⟨.permission, permission, inventory.permissions⟩, ⟨.group, group, inventory.groups⟩]

theorem informed_runCatalog (catalog : Catalog) (palette : Palette)
    (informed : Informed [] watched) :
    (runCatalog catalog palette).Ensures respond.watched (fun result watched =>
      ∃ group permission manufacturer role deviceType site,
        result.1 = [group, permission, manufacturer, role, deviceType, site] ∧
        Informed (knowledge result.2 group permission manufacturer role deviceType site) watched)
      watched := by
  have ensured (kind : Kind) {knowns : List Knowledge} (apart : ∀ known ∈ knowns, kind ≠ known.kind)
      (unfilled : ∀ aborted draft store, StoreRequest.Filled aborted (.create kind draft) store)
      (wanted : NameIndex → List (String × kind.Draft)) :
      Informs knowns kind (Stage.ensure kind wanted) :=
    informs_ensure apart fun _ _ _ _ _ => unfilled _ _ _
  refine ((ensured .group (by simp) (fun _ _ _ => trivial) _).conclude .group informed).bind ?_
  rintro ⟨group, groups⟩ watched informed
  have permitted : Informs [⟨.group, group, groups⟩] .permission
      (ensurePermissions catalog groups) := by
    intro report watched informed
    have types : (Stage.demand (.list .objectType)).Keeps respond.watched
        (Informed [⟨.group, group, groups⟩]) := .demand (Informed.preserves_list .objectType)
    refine (types report watched informed).bind (fun types report watched informed => ?_)
      fun _ _ _ informed => ⟨informed, nofun⟩
    exact ensured .permission (by simp) (fun _ _ _ => trivial) _ report watched informed
  refine (permitted.conclude .permission informed).bind ?_
  rintro ⟨permission, permissions⟩ watched informed
  refine ((ensured .manufacturer (by simp) (fun _ _ _ => trivial) _).conclude .manufacturer
    informed).bind ?_
  rintro ⟨manufacturer, manufacturers⟩ watched informed
  refine ((ensured .role (by simp) (fun _ _ _ => trivial) _).conclude .role informed).bind ?_
  rintro ⟨role, roles⟩ watched informed
  have typed : Informs [⟨.role, role, roles⟩, ⟨.manufacturer, manufacturer, manufacturers⟩,
      ⟨.permission, permission, permissions⟩, ⟨.group, group, groups⟩] .deviceType
      (ensureDeviceTypes catalog.deviceTypes manufacturers) := by
    refine informs_ensure (by simp) fun _ item hitem store current => ?_
    obtain ⟨model, -, rfl⟩ := List.mem_map.1 hitem
    have known : (⟨.manufacturer, manufacturer, manufacturers⟩ : Knowledge).Current store :=
      current _ (by simp)
    exact known.standIn (by simp) fun _ => rfl
  refine (typed.conclude .deviceType informed).bind ?_
  rintro ⟨deviceType, deviceTypes⟩ watched informed
  refine ((ensured .site (by simp) (fun _ _ _ => trivial) _).conclude .site informed).bind ?_
  rintro ⟨site, sites⟩ watched informed
  exact ⟨group, permission, manufacturer, role, deviceType, site, rfl, informed⟩

/-- What is known of the collections that an import refers to, and of none that it adds to. -/
structure Covers (knowns : List Knowledge) (inventory : Inventory) : Prop where
  kinds : ∀ known ∈ knowns, known.kind ∉ [.ipPrefix, .device, .interface, .address]
  site : ∃ report, ⟨.site, report, inventory.sites⟩ ∈ knowns
  role : ∃ report, ⟨.role, report, inventory.roles⟩ ∈ knowns
  deviceType : ∃ report, ⟨.deviceType, report, inventory.deviceTypes⟩ ∈ knowns

theorem informed_importNetworkMap {inventory : Inventory} (covers : Covers knowns inventory)
    (map : NetworkMap) :
    (importNetworkMap map inventory).Keeps respond.watched (Informed knowns) := by
  have preserves (request : StoreRequest)
      (touches : ∀ kind ∈ request.touches?, kind ∈ [.ipPrefix, .device, .interface, .address])
      (filled : ∀ store, (∀ known ∈ knowns, known.Current store) →
        request.Filled (Knowledge.Aborted knowns) store) :
      (respond.watched).Preserves (Informed knowns) request :=
    Informed.preserves (fun known hmem heq => covers.kinds known hmem (touches _ heq)) filled
  obtain ⟨site, hsite⟩ := covers.site
  obtain ⟨role, hrole⟩ := covers.role
  obtain ⟨deviceType, hdeviceType⟩ := covers.deviceType
  have prefixes : (ensurePrefixes map.segments inventory).Keeps respond.watched
      (Informed knowns) := by
    refine .ensure_wanted (Informed.preserves_list .ipPrefix) fun _ item hitem => ?_
    obtain ⟨segment, -, rfl⟩ := List.mem_map.1 hitem
    exact preserves _ (by simp [StoreRequest.touches?]) fun store current =>
      (current _ hsite).standIn hsite fun _ => rfl
  have device (host : Host) : (createDevice inventory host).Keeps respond.watched
      (Informed knowns) := by
    refine keeps_createDevice ?_ fun _ => preserves _ (by simp [StoreRequest.touches?])
      fun _ _ => trivial
    exact preserves _ (by simp [StoreRequest.touches?]) fun store current =>
      ⟨(current _ hsite).standIn hsite fun _ => rfl, (current _ hrole).standIn hrole fun _ => rfl,
        (current _ hdeviceType).standIn hdeviceType fun _ => rfl⟩
  have devices : (ensureDevices map.hosts inventory).Keeps respond.watched (Informed knowns) :=
    (Stage.Keeps.readIndex (Informed.preserves_list .device)).bind fun existing =>
      (keeps_createDevices device existing [] map.hosts).bind fun _ =>
        .readIndex (Informed.preserves_list .device)
  refine prefixes.bind fun _ => devices.bind fun _ => ?_
  refine (Stage.Keeps.demand (Informed.preserves_list .interface)).bind fun _ => ?_
  exact keeps_assignAddresses
    (fun _ _ => preserves _ (by simp [StoreRequest.touches?]) fun _ _ => trivial)
    (fun _ => preserves _ (by simp [StoreRequest.touches?]) fun _ _ => trivial)
    (Informed.preserves_list .address) _ _ _

/-! ## All stages -/

theorem covers_knowledge (inventory : Inventory)
    (group permission manufacturer role deviceType site : StageReport) :
    Covers (knowledge inventory group permission manufacturer role deviceType site) inventory where
  kinds := by simp [knowledge]
  site := ⟨site, by simp [knowledge]⟩
  role := ⟨role, by simp [knowledge]⟩
  deviceType := ⟨deviceType, by simp [knowledge]⟩

theorem informed_run (catalog : Catalog) (source? : Option MapSource) (palette : Palette)
    (informed : Informed [] watched) :
    (run catalog source? palette).Ensures respond.watched (fun report watched =>
      ∃ group permission manufacturer role deviceType site rest,
        report.stages = [group, permission, manufacturer, role, deviceType, site] ++ rest ∧
        Informed (knowledge report.inventory group permission manufacturer role deviceType site)
          watched) watched := by
  refine (informed_runCatalog catalog palette informed).bind ?_
  rintro ⟨_, inventory⟩ watched ⟨group, permission, manufacturer, role, deviceType, site, rfl,
    informed⟩
  have covers := covers_knowledge inventory group permission manufacturer role deviceType site
  generalize hknown : knowledge inventory group permission manufacturer role deviceType site =
    knowns at informed covers
  have mapped (source : MapSource) :
      (networkMapStage source inventory).Keeps respond.watched (Informed knowns) := by
    obtain failure | _ | map := source
    · exact .throw failure
    · exact .pure ()
    · exact informed_importNetworkMap covers map
  have backfilled : backfillDescriptions.Keeps respond.watched (Informed knowns) := by
    refine keeps_backfillDescriptions (Informed.preserves (fun _ _ => nofun) fun _ _ => trivial)
      fun id description => Informed.preserves (fun known hmem heq => ?_) fun _ _ => trivial
    exact covers.kinds known hmem (by simp [← Option.some.inj heq])
  refine (ensures_runNetworkMap mapped source? informed).bind fun mapReports watched informed => ?_
  refine (backfilled.conclude .prefixDescription informed).bind fun result watched informed => ?_
  exact ⟨group, permission, manufacturer, role, deviceType, site, mapReports ++ [result.1],
    List.append_assoc _ _ _, hknown ▸ informed⟩

/-- What is known after the stages of the catalog bears their names. -/
theorem knowledge_named {inventory : Inventory}
    {group permission manufacturer role deviceType site : StageReport} {rest : List StageReport}
    {mapped : Bool} (course : ([group, permission, manufacturer, role, deviceType, site] ++
      rest).map (·.stage) = StageName.course mapped) :
    ∀ known ∈ knowledge inventory group permission manufacturer role deviceType site,
      known.report ∈ [group, permission, manufacturer, role, deviceType, site] ∧
        known.report.stage = known.kind.stage ∧
        inventory.index? known.kind.stage = some known.index := by
  simp only [StageName.course, List.map_cons, List.cons_append, List.cons.injEq] at course
  obtain ⟨hgroup, hpermission, hmanufacturer, hrole, hdeviceType, hsite, -⟩ := course
  simp [knowledge, Kind.stage, Inventory.index?, hgroup, hpermission, hmanufacturer, hrole,
    hdeviceType, hsite]

/-- At every moment of a reconciliation, what has been filled in is an identifier of the collection
as it is then, the smallest one where names differ. -/
theorem run_filled (store : MemoryStore) (catalog : Catalog) (source? : Option MapSource)
    (palette : Palette) :
    (run catalog source? palette).Throughout respond
      (StoreRequest.Filled fun kind =>
        kind.stage ∈ ((run catalog source? palette).run respond store).1.abortedStages) store := by
  have start : Informed [] (store, []) := ⟨by simp, by simp⟩
  obtain ⟨group, permission, manufacturer, role, deviceType, site, rest, hstages, -, filled⟩ :=
    (informed_run catalog source? palette start).moments
  have course := (recorded_run respond store catalog source? palette).stages
  rw [hstages] at course
  intro moment hmoment
  refine (filled moment hmoment).mono ?_
  rintro kind ⟨known, hmem, rfl, aborted⟩
  obtain ⟨hreport, hname, -⟩ := knowledge_named course known hmem
  refine Report.mem_abortedStages.2 ⟨known.report, ?_, aborted, hname⟩
  exact hstages ▸ List.mem_append_left _ hreport

/-- Two device types of one model, as different manufacturers may have them. -/
def namesakes : MemoryStore :=
  (equippedStore.addDeviceType "Model-X").2

def oneHost : NetworkMap where
  hosts := [{ name := "h1", address := .classify "10.0.0.5" }]

/-- The device type of each device that is asked for, and the device types there are then. -/
def deviceTypesSent (moments : List (StoreRequest × MemoryStore)) :
    List (Option Int × List Int) :=
  moments.filterMap fun
    | (.create .device draft, store) => some (draft.deviceType, store.deviceTypes.map (·.id))
    | _ => none

/-- The first of two device types of one model is not sent, although its identifier is smaller. -/
theorem run_namesakes : namesakes.Reachable ∧
    ((run twoGroups (some (.ok (some oneHost))) default).run respond namesakes).1.abortedStages =
      [] ∧
    deviceTypesSent
      ((run twoGroups (some (.ok (some oneHost))) default).moments respond namesakes) =
      [(some 4, [3, 4])] :=
  ⟨equippedStore_reachable.addDeviceType "Model-X", by decide +kernel, by decide +kernel⟩

end Reconcile

end AssetSeed
