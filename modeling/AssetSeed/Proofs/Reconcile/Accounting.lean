import AssetSeed.NetworkMap.Load
import AssetSeed.Proofs.Reconcile.Chronicle

/-!
# Reports account for what was said

Nothing is assumed about the database. A report accounts for all that was written, and it keeps the
stages apart: a stage ends early on a fatal failure and on nothing else, it is silent from there on,
and the next stage starts.

## Main definitions

* `Accounted` — a report that accounts for all that was said.
* `NetworkMap.Unusable` — the file of the map cannot be read, or is no map.
* `Bounded` — a report that keeps the stages apart.

## Main statements

* `Reconcile.run_accounted` — whatever the database answers, the report of a reconciliation accounts
  for it.
* `Reconcile.run_bounded` — the report of a reconciliation keeps the stages apart.
-/

namespace AssetSeed

namespace Exchange

variable {e : Exchange StoreProtocol}

theorem stage_of_isPointed (h : e.isPointed) : e.question.stage = .networkMap := by
  obtain ⟨request, answer⟩ := e
  cases request with
  | setPrimary device primary => rfl
  | _ => cases answer <;> simp at h

/-- Prefixes are described, or fail to be, in the last stage only. -/
theorem stage_of_describe (h : e.isDescribed ∨ e.isUndescribed) :
    e.question.stage = .prefixDescription := by
  obtain ⟨request, answer⟩ := e
  cases request with
  | describe id description => rfl
  | _ => cases answer <;> simp at h

end Exchange

/-- A stage counts nothing that belongs to another one. -/
theorem Transcript.countP_ofStage_eq_zero {stage stage' : StageName}
    {p : Exchange StoreProtocol → Bool} (belongs : ∀ e, p e → e.question.stage = stage')
    (ne : stage ≠ stage') (said : Transcript) : (said.ofStage stage).countP p = 0 := by
  rw [List.countP_eq_zero]
  intro e he hp
  have hstage : e.question.stage = stage := of_decide_eq_true (List.mem_filter.1 he).2
  exact ne (hstage.symm.trans (belongs e hp))

namespace Reconcile

/-- The report accounts for all that was said in a reconciliation, with a map or without one. -/
structure Accounted (mapped : Bool) (report : Report) (said : Transcript) : Prop where
  /-- There is one report for each stage. -/
  stages : report.stages.map (·.stage) = StageName.course mapped
  created : ∀ stage ∈ report.stages,
    stage.created = (said.ofStage stage.stage).countP Exchange.isCreated
  /-- The rejections are listed in the order of the requests that were rejected. -/
  rejections : ∀ stage ∈ report.stages,
    stage.rejections.map (·.error) = (said.ofStage stage.stage).filterMap Exchange.refusal?
  pointed : ∀ stage ∈ report.stages, stage.stage = .networkMap →
    stage.updated = (said.ofStage stage.stage).countP Exchange.isPointed
  described : ∀ stage ∈ report.stages, stage.stage = .prefixDescription →
    stage.updated = (said.ofStage stage.stage).countP Exchange.isDescribed ∧
      stage.skipped = (said.ofStage stage.stage).countP Exchange.isUndescribed
  /-- The stages of the catalog update nothing and skip nothing. -/
  catalog : ∀ stage ∈ report.stages, stage.stage ≠ .networkMap →
    stage.stage ≠ .prefixDescription → stage.updated = 0 ∧ stage.skipped = 0
  totalCreated : report.totalCreated = said.countP Exchange.isCreated

/-- Whatever the database answers, the report of a reconciliation accounts for it, be its stages
gone through or not. -/
theorem run_accounted {σ : Type} (respond : Responder StoreProtocol σ) (s : σ) (catalog : Catalog)
    (source? : Option MapSource) (palette : Palette) :
    Accounted source?.isSome ((run catalog source? palette).run respond s).1
      ((run catalog source? palette).exchanges respond s) := by
  have recorded := recorded_run respond s catalog source? palette
  obtain ⟨tells, -⟩ := recorded.chronicle.tells (recorded.stages ▸ StageName.nodup_course _)
  have unpointed (stage : StageName) (unmapped : stage ≠ .networkMap) :=
    Transcript.countP_ofStage_eq_zero (fun _ h => Exchange.stage_of_isPointed h) unmapped
      ((run catalog source? palette).exchanges respond s)
  have undescribed (stage : StageName) (describing : stage ≠ .prefixDescription) :=
    Transcript.countP_ofStage_eq_zero (fun _ h => Exchange.stage_of_describe (.inl h)) describing
      ((run catalog source? palette).exchanges respond s)
  constructor
  case stages => exact recorded.stages
  case created => exact fun stage hstage => (tells stage hstage).created
  case rejections => exact fun stage hstage => (tells stage hstage).refusals
  case pointed =>
    intro stage hstage hname
    rw [(tells stage hstage).updated, undescribed stage.stage (by simp [hname]), Nat.add_zero]
  case described =>
    intro stage hstage hname
    have unmapped : stage.stage ≠ .networkMap := by simp [hname]
    rw [(tells stage hstage).updated, unpointed stage.stage unmapped, Nat.zero_add]
    exact ⟨rfl, (tells stage hstage).skipped unmapped⟩
  case catalog =>
    intro stage hstage unmapped describing
    rw [(tells stage hstage).updated, (tells stage hstage).skipped unmapped,
      unpointed stage.stage unmapped, undescribed stage.stage describing]
    exact ⟨rfl, Transcript.countP_ofStage_eq_zero (fun _ h => Exchange.stage_of_describe (.inr h))
      describing _⟩
  case totalCreated =>
    rw [← recorded.chronicle.totalCreated, Report.totalCreated, List.sum_eq_foldl, List.foldl_map]

end Reconcile

/-! ## The boundaries of stages -/

/-- There is a file at the path, but it cannot be read or is no JSON. -/
def NetworkMap.Unusable (disk : Disk) (path : Path) : Prop :=
  disk.isFile path ∧ ((∃ e, disk.readText path = .error e) ∨
    ∃ text, disk.readText path = .ok text ∧ ofText? text = none)

theorem NetworkMap.exists_load_eq_error_iff {disk : Disk} {path : Path} :
    (∃ failure, load disk path = .error failure) ↔ Unusable disk path := by
  rw [load, Unusable]
  by_cases hfile : disk.isFile path
  · cases hread : disk.readText path with
    | error e => simp [hfile]
    | ok text => cases hmap : ofText? text <;> simp [hfile, hmap]
  · simp [hfile]

namespace Reconcile

/-- The report of a reconciliation keeps apart the stages in which `said` was said. -/
structure Bounded (path? : Option Path) (disk : Disk) (report : Report) (said : Transcript) :
    Prop where
  /-- There is one report for each stage, in order, and one for the map if it is configured. -/
  stages : report.stages.map (·.stage) = StageName.course path?.isSome
  /-- One stage speaks after the other. -/
  apart : said = report.stages.flatMap fun stage => said.ofStage stage.stage
  /-- A stage ends early on a fatal failure, and that of the map on a file it cannot use. -/
  aborted_iff : ∀ stage ∈ report.stages, stage.aborted.isSome ↔
    (∃ e ∈ said.ofStage stage.stage, e.fatal?.isSome) ∨
      stage.stage = .networkMap ∧ ∃ path ∈ path?, NetworkMap.Unusable disk path
  /-- Nothing is said in a stage after a fatal failure. -/
  silent : ∀ stage ∈ report.stages, ∀ before e after,
    said.ofStage stage.stage = before ++ e :: after → e.fatal?.isSome → after = []
  /-- A stage that ended early leaves an empty index. -/
  empty : ∀ stage ∈ report.stages, stage.aborted.isSome →
    ∀ index ∈ report.inventory.index? stage.stage, index = .empty
  /-- Every stage starts, whatever has become of those before it. -/
  starts : ∀ stage ∈ report.stages, (said.ofStage stage.stage).head?.map (·.question) =
    stage.stage.opening? (path?.map (NetworkMap.load disk))

theorem exists_fault?_iff {path? : Option Path} {disk : Disk} {stage : StageName} :
    (∃ failure, stage.fault? (path?.map (NetworkMap.load disk)) = some failure) ↔
      stage = .networkMap ∧ ∃ path ∈ path?, NetworkMap.Unusable disk path := by
  simp only [← NetworkMap.exists_load_eq_error_iff]
  cases stage with
  | networkMap =>
    cases path? with
    | none => simp [StageName.fault?]
    | some path => rcases hload : NetworkMap.load disk path with e | _ | map <;>
        simp [StageName.fault?, hload]
  | _ => simp [StageName.fault?]

/-- Whatever the database answers, the report of a reconciliation keeps its stages apart. -/
theorem run_bounded {σ : Type} (respond : Responder StoreProtocol σ) (s : σ) (catalog : Catalog)
    (path? : Option Path) (disk : Disk) (palette : Palette) :
    Bounded path? disk
      ((run catalog (path?.map (NetworkMap.load disk)) palette).run respond s).1
      ((run catalog (path?.map (NetworkMap.load disk)) palette).exchanges respond s) := by
  have recorded := recorded_run respond s catalog (path?.map (NetworkMap.load disk)) palette
  obtain ⟨tells, apart⟩ := recorded.chronicle.tells (recorded.stages ▸ StageName.nodup_course _)
  refine ⟨by simpa using recorded.stages, apart, fun stage hstage => ?_,
    fun stage hstage => (tells stage hstage).silent, recorded.empty,
    fun stage hstage => (tells stage hstage).opening⟩
  rw [← exists_fault?_iff]
  exact (tells stage hstage).isSome_aborted_iff

end Reconcile

end AssetSeed
