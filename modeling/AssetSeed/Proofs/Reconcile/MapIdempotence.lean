import AssetSeed.Proofs.Reconcile.Idempotence
import AssetSeed.Proofs.Reconcile.NetworkSettling

/-!
# Reconciling twice with a network map

A second reconciliation with the same network map finds nothing to do, unless hosts of the map share
a name and not an address. Then the first one serves one of them, and leaves the others outstanding.

## Main definitions

* `MemoryStore.reconcileMap` — a reconciliation with a network map.

## Main statements

* `Reconcile.reconcileMap_idle_iff` — when the second reconciliation finds nothing to do.
-/

namespace AssetSeed

open MemoryStore (respond Undisturbed Unchanged Grows Spares)

namespace MemoryStore

/-- The report of a reconciliation with a network map, and the database that it leaves. -/
def reconcileMap (store : MemoryStore) (catalog : Catalog) (map : NetworkMap) (palette : Palette) :
    Report × MemoryStore :=
  store.reconcile catalog (some (.ok (some map))) palette

variable {store : MemoryStore}

theorem index_describeAll (store : MemoryStore) (kind : Kind) :
    store.describeAll.index kind = store.index kind := by
  cases kind with
  | ipPrefix =>
    have pairs : Stage.keyPairs .ipPrefix (store.prefixes.map Reconcile.described) =
        Stage.keyPairs .ipPrefix store.prefixes := by
      simp only [Stage.keyPairs, List.filterMap_map]
      refine congrArg (List.filterMap · store.prefixes) (funext fun r => ?_)
      rw [Function.comp_apply, Reconcile.described]
      split <;> rfl
    exact congrArg Index.ofList pairs
  | _ => rfl

theorem verdict_describeAll (store : MemoryStore) (kind : Kind) (draft : kind.Draft) :
    store.describeAll.verdict kind draft = store.verdict kind draft := by
  cases kind <;> rfl

/-- An identifier belongs to one key only. -/
theorem WellFormed.key_eq (h : store.WellFormed) {kind : Kind} {key key' : String} {id : Int}
    (first : (store.index kind).get? key = some id)
    (second : (store.index kind).get? key' = some id) : key = key' := by
  obtain ⟨r, hr, hkey, hid⟩ := Stage.mem_keyPairs.1
    (Index.mem_of_mem_ofList (Index.get?_eq_some_iff.1 first))
  obtain ⟨r', hr', hkey', hid'⟩ := Stage.mem_keyPairs.1
    (Index.mem_of_mem_ofList (Index.get?_eq_some_iff.1 second))
  obtain rfl := List.inj_on_of_nodup_map (h.nodup kind) hr hr' (hid.trans hid'.symm)
  exact Option.some.inj (hkey.symm.trans hkey')

end MemoryStore

namespace Reconcile

variable {store : MemoryStore}

theorem reconcileMap_eq (reachable : store.Reachable) (quiet : Undisturbed store)
    (catalog : Catalog) (map : NetworkMap) (palette : Palette) : ∃ reports report mid new,
      store.reconcileMap catalog map palette =
        ({ stages := reports ++ [report] ++ [descriptionReport new], inventory := mid.inventory },
          new.describeAll) ∧
      CatalogOutcome catalog store mid reports ∧ new.WellFormed ∧
      NetworkOutcome map mid.inventory mid new report := by
  obtain ⟨reports, mid, hcatalog, outcome⟩ := runCatalog_run quiet catalog palette
  have reachable' : mid.Reachable := by
    have reached := reachable.run (runCatalog catalog palette)
    rwa [hcatalog] at reached
  obtain ⟨report, new, hmap, outcome'⟩ :=
    networkMapStage_run (outcome.grows.undisturbed quiet) mid.inventory map
  have hconclude := Stage.run_conclude_of_ok respond hmap
  have wellFormed : new.WellFormed := by
    have reached := (reachable'.run ((networkMapStage (.ok (some map)) mid.inventory).conclude
      .networkMap)).wellFormed
    rwa [hconclude] at reached
  have hnetwork : (runNetworkMap (some (.ok (some map))) mid.inventory).run respond mid =
      ([report], new) := by
    rw [runNetworkMap, Dialogue.run_bind, hconclude]
    rfl
  refine ⟨reports, report, mid, new, ?_, outcome, wellFormed, outcome'⟩
  rw [MemoryStore.reconcileMap, MemoryStore.reconcile, run, Dialogue.run_bind, hcatalog]
  dsimp only
  rw [Dialogue.run_bind, hnetwork]
  dsimp only
  rw [Dialogue.run_bind, run_backfill outcome'.quiet wellFormed]
  rfl

/-- A reconciliation of a database that another one with the same map has left. -/
theorem second_reconcileMap {catalog : Catalog} {map : NetworkMap} {mid new : MemoryStore}
    {reports : List StageReport} {report : StageReport}
    (outcome : CatalogOutcome catalog store mid reports)
    (outcome' : NetworkOutcome map mid.inventory mid new report)
    (reachable : new.describeAll.Reachable) (palette : Palette) :
    Idle new.describeAll (new.describeAll.reconcileMap catalog map palette) ↔
      ∀ host ∈ map.hosts, ¬Outstanding new.describeAll host := by
  obtain ⟨reports₂, report₂, mid₂, new₂, heq, catalog₂, -, network₂⟩ :=
    reconcileMap_eq reachable (undisturbed_describeAll outcome'.quiet) catalog map palette
  have spares : ∀ kind ∈ Catalog.kinds, Spares kind mid new.describeAll := fun kind hkind =>
    (outcome'.spares kind hkind).trans (spares_describeAll new kind hkind)
  obtain ⟨created, unchanged⟩ := catalog₂.idle (outcome.settled.mono spares)
  have prefixes : map.prefixes.Settled mid₂ := by
    have settled : map.prefixes.Settled new.describeAll := by
      intro key hkey
      simp only [Want.outstanding, MemoryStore.index_describeAll] at hkey
      simpa only [MemoryStore.verdict_describeAll] using outcome'.prefixes key hkey
    exact settled.mono (unchanged.spares .ipPrefix)
  have equipped : Equipped mid₂.inventory map.hosts mid₂ := by
    have spares₂ : ∀ kind ∈ Catalog.kinds, Spares kind mid mid₂ :=
      fun kind hkind => (spares kind hkind).trans (unchanged.spares kind)
    rw [MemoryStore.inventory_eq spares₂]
    have equipped' : Equipped mid.inventory map.hosts new.describeAll := outcome'.equipped
    exact equipped'.of_unchanged unchanged
  rw [heq]
  constructor
  · intro idle host hhost houtstanding
    have busy := network₂.busy prefixes equipped
      ⟨host, hhost, (outstanding_congr unchanged host).2 houtstanding⟩
    have hzero := (idle.stages report₂ (by simp)).1
    omega
  · intro none_outstanding
    obtain ⟨hcreated, hupdated, unchanged'⟩ := network₂.idle prefixes equipped
      fun host hhost h => none_outstanding host hhost ((outstanding_congr unchanged host).1 h)
    have unchanged₂ := unchanged.trans unchanged'
    have hdescribed : Described new₂ := described_of_unchanged unchanged₂
    refine ⟨fun stage hstage => ?_, hdescribed.describeAll.symm ▸ unchanged₂⟩
    rw [List.append_assoc, List.mem_append] at hstage
    obtain hstage | hstage := hstage
    · exact ⟨created stage hstage, (catalog₂.calm stage hstage).1⟩
    · obtain rfl | hstage := List.mem_cons.1 hstage
      · exact ⟨hcreated, hupdated⟩
      · rw [List.mem_singleton.1 hstage]
        exact ⟨rfl, hdescribed.pendingDescriptions⟩

/-- A second reconciliation with the same map finds nothing to do if and only if the first one has
left no host outstanding. A host that it has left outstanding comes behind one of the same name, for
which it has created another address. -/
theorem reconcileMap_idle_iff (reachable : store.Reachable) (quiet : Undisturbed store)
    (catalog : Catalog) (map : NetworkMap) (palette palette' : Palette) :
    (Idle (store.reconcileMap catalog map palette).2
        ((store.reconcileMap catalog map palette).2.reconcileMap catalog map palette') ↔
      ∀ host ∈ map.hosts, ¬Outstanding (store.reconcileMap catalog map palette).2 host) ∧
    ∀ before host after, map.hosts = before ++ host :: after →
      Outstanding (store.reconcileMap catalog map palette).2 host →
      ∃ other ∈ before, other.name = host.name ∧ ∃ key,
        other.address.hostKey? = some key ∧ host.address.hostKey? ≠ some key ∧
        ((store.reconcileMap catalog map palette).2.index .address).contains key ∧
        (store.index .address).contains key = false := by
  obtain ⟨reports, report, mid, new, heq, outcome, wellFormed, outcome'⟩ :=
    reconcileMap_eq reachable quiet catalog map palette
  have reachable' : (store.reconcileMap catalog map palette).2.Reachable := reachable.run _
  rw [heq] at reachable' ⊢
  refine ⟨second_reconcileMap outcome outcome' reachable' palette', ?_⟩
  intro before host after hhosts houtstanding
  obtain ⟨other, hother, key, device, bindable, hdevice, hnew, hmid⟩ :=
    outcome'.served before host after hhosts houtstanding
  obtain ⟨key', device', bindable', habsent, -⟩ := houtstanding
  refine ⟨other, hother, wellFormed.key_eq bindable.named hdevice, key, bindable.address, ?_, hnew,
    ?_⟩
  · intro hkey
    obtain rfl : key' = key := Option.some.inj (bindable'.address.symm.trans hkey)
    have absent : (new.index .address).contains key' = false := habsent
    simp [hnew] at absent
  · have addresses : mid.records .address = store.records .address :=
      outcome.grows.others .address (by decide)
    rwa [MemoryStore.index_congr addresses] at hmid

/-- A database in which devices can be created. -/
def equippedStore : MemoryStore :=
  ((((MemoryStore.ofObjectTypes []).addSite "HQ").2.addRole "Sensor").2.addDeviceType "Model-X").2

theorem equippedStore_reachable : equippedStore.Reachable :=
  (((MemoryStore.Reachable.ofObjectTypes []).addSite "HQ").addRole "Sensor").addDeviceType "Model-X"

theorem equippedStore_undisturbed : Undisturbed equippedStore :=
  ⟨fun _ => rfl, rfl⟩

def twoGroups : Catalog where
  staffGroup := "staff"
  defaultGroup := "standard"

/-- One host with two addresses. -/
def sharedName : NetworkMap where
  hosts := [{ name := "h1", address := .classify "10.0.0.5" },
    { name := "h1", address := .classify "10.0.0.6" }]

theorem reconcileMap_idle_iff_sharedName :
    equippedStore.Reachable ∧ Undisturbed equippedStore ∧
    (Idle (equippedStore.reconcileMap twoGroups sharedName default).2
        ((equippedStore.reconcileMap twoGroups sharedName default).2.reconcileMap twoGroups
          sharedName default) ↔
      ∀ host ∈ sharedName.hosts,
        ¬Outstanding (equippedStore.reconcileMap twoGroups sharedName default).2 host) :=
  ⟨equippedStore_reachable, equippedStore_undisturbed,
    (reconcileMap_idle_iff equippedStore_reachable equippedStore_undisturbed twoGroups sharedName
      default default).1⟩

/-- The second reconciliation creates the address that the first one has skipped. -/
theorem reconcileMap_sharedName_not_idle :
    equippedStore.Reachable ∧ Undisturbed equippedStore ∧
    (equippedStore.reconcileMap twoGroups sharedName default).2.addresses.map (·.address) =
      ["10.0.0.5/32"] ∧
    ((equippedStore.reconcileMap twoGroups sharedName default).2.reconcileMap twoGroups sharedName
      default).2.addresses.map (·.address) = ["10.0.0.5/32", "10.0.0.6/32"] ∧
    ¬Idle (equippedStore.reconcileMap twoGroups sharedName default).2
      ((equippedStore.reconcileMap twoGroups sharedName default).2.reconcileMap twoGroups sharedName
        default) := by
  have created : ∃ stage ∈ ((equippedStore.reconcileMap twoGroups sharedName default).2.reconcileMap
      twoGroups sharedName default).1.stages, stage.created = 1 := by
    decide +kernel
  refine ⟨equippedStore_reachable, equippedStore_undisturbed, by decide +kernel, by decide +kernel,
    fun idle => ?_⟩
  obtain ⟨stage, hstage, hone⟩ := created
  have hzero := (idle.stages stage hstage).1
  omega

end Reconcile

end AssetSeed
