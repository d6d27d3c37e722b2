import AssetSeed.Proofs.Reconcile.CatalogSettling
import AssetSeed.Proofs.Reconcile.Describing

/-!
# Reconciling twice

With a database in memory and without faults but refused names, a second reconciliation to the same
catalog finds nothing to do and is refused what the first one was refused.

## Main definitions

* `MemoryStore.reconcile` — a reconciliation with the database.
* `Reconcile.Idle` — a reconciliation that ended well and did nothing.
* `Reconcile.Repeats` — one that besides found the same and was refused the same as another.

## Main statements

* `Reconcile.reconcile_catalog_repeats` — the second reconciliation repeats the first.
-/

namespace AssetSeed

open MemoryStore (respond Undisturbed Unchanged Spares)

/-- The report of a reconciliation, and the database that it leaves. -/
def MemoryStore.reconcile (store : MemoryStore) (catalog : Catalog)
    (source? : Option Reconcile.MapSource) (palette : Palette) : Report × MemoryStore :=
  (Reconcile.run catalog source? palette).run respond store

namespace Reconcile

/-- A reconciliation of the database that creates nothing, updates nothing and leaves every
collection as it was. -/
structure Idle (store : MemoryStore) (second : Report × MemoryStore) : Prop where
  stages : ∀ stage ∈ second.1.stages, stage.created = 0 ∧ stage.updated = 0
  unchanged : Unchanged store second.2

/-- A reconciliation that goes through without finding anything to do after another one, and reports
the same inventory and the same rejections in each stage. -/
structure Repeats (first second : Report × MemoryStore) : Prop extends Idle first.2 second where
  complete : ∀ stage ∈ second.1.stages, stage.aborted = none
  inventory : second.1.inventory = first.1.inventory
  rejections : second.1.stages.map (fun stage => (stage.stage, stage.rejections)) =
    first.1.stages.map fun stage => (stage.stage, stage.rejections)

variable {store : MemoryStore}

/-- The report of the stage of prefix descriptions. -/
def descriptionReport (store : MemoryStore) : StageReport :=
  { stage := .prefixDescription, updated := pendingDescriptions store }

theorem undisturbed_describeAll (quiet : Undisturbed store) : Undisturbed store.describeAll :=
  ⟨quiet.outage, quiet.failingUpdates⟩

theorem spares_describeAll (store : MemoryStore) :
    ∀ kind ∈ Catalog.kinds, Spares kind store store.describeAll := by
  intro kind hkind
  refine ⟨fun other hother => ?_, rfl⟩
  have hne : other ≠ .ipPrefix := by
    rintro rfl
    revert hother hkind
    cases kind <;> decide
  cases other <;> first | rfl | exact absurd rfl hne

theorem described_of_unchanged {new : MemoryStore} (h : Unchanged store.describeAll new) :
    Described new := by
  have prefixes : new.prefixes = store.describeAll.prefixes := h.records .ipPrefix
  rw [Described, prefixes]
  exact described_describeAll store

theorem run_backfill (quiet : Undisturbed store) (wellFormed : store.WellFormed) :
    (backfillDescriptions.conclude .prefixDescription).run respond store =
      ((descriptionReport store, ()), store.describeAll) := by
  rw [Stage.run_conclude_of_ok respond (backfillDescriptions_run quiet wellFormed _)]
  simp [descriptionReport]

theorem reconcile_catalog (reachable : store.Reachable) (quiet : Undisturbed store)
    (catalog : Catalog) (palette : Palette) : ∃ reports new,
      store.reconcile catalog none palette =
        ({ stages := reports ++ [descriptionReport new], inventory := new.inventory },
          new.describeAll) ∧ Undisturbed new ∧ CatalogOutcome catalog store new reports := by
  obtain ⟨reports, new, hrun, outcome⟩ := runCatalog_run quiet catalog palette
  have wellFormed : new.WellFormed := by
    have reached := (reachable.run (runCatalog catalog palette)).wellFormed
    rwa [hrun] at reached
  have quiet' := outcome.grows.undisturbed quiet
  refine ⟨reports, new, ?_, quiet', outcome⟩
  rw [MemoryStore.reconcile, run, Dialogue.run_bind, hrun]
  dsimp only
  rw [runNetworkMap, Dialogue.run_bind, Dialogue.run_pure]
  dsimp only
  rw [Dialogue.run_bind, run_backfill quiet' wellFormed, List.append_nil]
  rfl

/-- A second reconciliation to a catalog finds nothing to do, and is refused the same. -/
theorem reconcile_catalog_repeats (reachable : store.Reachable) (quiet : Undisturbed store)
    (catalog : Catalog) (palette palette' : Palette) :
    Repeats (store.reconcile catalog none palette)
      ((store.reconcile catalog none palette).2.reconcile catalog none palette') := by
  obtain ⟨reports, new, hfirst, quiet', outcome⟩ :=
    reconcile_catalog reachable quiet catalog palette
  have reachable' : (store.reconcile catalog none palette).2.Reachable := reachable.run _
  rw [hfirst] at reachable' ⊢
  obtain ⟨reports', new', hsecond, -, outcome'⟩ :=
    reconcile_catalog reachable' (undisturbed_describeAll quiet') catalog palette'
  obtain ⟨created, unchanged⟩ := outcome'.idle (outcome.settled.mono (spares_describeAll new))
  have spares : ∀ kind ∈ Catalog.kinds, Spares kind new new' := fun kind hkind =>
    (spares_describeAll new kind hkind).trans (unchanged.spares kind)
  have hdescribed : Described new' := described_of_unchanged unchanged
  rw [hsecond, hdescribed.describeAll]
  refine ⟨⟨fun stage hstage => ?_, unchanged⟩, fun stage hstage => ?_,
    MemoryStore.inventory_eq spares, ?_⟩
  · simp only [List.mem_append, List.mem_singleton] at hstage
    obtain hstage | rfl := hstage
    · exact ⟨created stage hstage, (outcome'.calm stage hstage).1⟩
    · exact ⟨rfl, hdescribed.pendingDescriptions⟩
  · simp only [List.mem_append, List.mem_singleton] at hstage
    obtain hstage | rfl := hstage
    · exact (outcome'.calm stage hstage).2
    · rfl
  · rw [List.map_append, List.map_append, outcome.refused, outcome'.refused,
      Catalog.refusals_eq spares]
    rfl

/-- Names that are refused, that clash by slug and that are repeated. -/
def clashingCatalog : Catalog where
  sites := ["Head Office", "head office", "", "Depot"]
  deviceTypes := ["Model-X"]
  staffGroup := "staff"
  defaultGroup := "staff"

theorem reconcile_catalog_repeats_clashing :
    ((MemoryStore.ofObjectTypes ["dcim.site"]).refuseName "Depot").Reachable ∧
    Undisturbed ((MemoryStore.ofObjectTypes ["dcim.site"]).refuseName "Depot") ∧
    Repeats
      (((MemoryStore.ofObjectTypes ["dcim.site"]).refuseName "Depot").reconcile clashingCatalog none
        (.ofSeed 1))
      ((((MemoryStore.ofObjectTypes ["dcim.site"]).refuseName "Depot").reconcile clashingCatalog
        none (.ofSeed 1)).2.reconcile clashingCatalog none (.ofSeed 2)) :=
  ⟨.refuseName (.ofObjectTypes ["dcim.site"]) "Depot", ⟨fun _ => rfl, rfl⟩,
    reconcile_catalog_repeats (.refuseName (.ofObjectTypes ["dcim.site"]) "Depot")
      ⟨fun _ => rfl, rfl⟩ clashingCatalog (.ofSeed 1) (.ofSeed 2)⟩

end Reconcile

end AssetSeed
