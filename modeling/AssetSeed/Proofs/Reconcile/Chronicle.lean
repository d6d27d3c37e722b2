import AssetSeed.Proofs.Reconcile.Turns
import AssetSeed.Proofs.Stage.Accounts
import Mathlib.Algebra.GroupWithZero.Nat

/-!
# The course of a reconciliation

A reconciliation is a sequence of stages, each with what was said in it and the report of it. This
holds whatever the database answers.

## Main definitions

* `StageName.course` — the stages, in order.
* `StageReport.Tells` — a report, and what was said in the stage.
* `Chronicle` — the reports of stages that came one after the other, and all that was said.

## Main statements

* `Stage.Balances.conclude` — a stage that is over tells what was said in it.
* `Chronicle.tells` — what was said in a stage is what its requests show.
* `Reconcile.run_chronicle` — the chronicle of a reconciliation.
-/

namespace AssetSeed

open Reconcile (MapSource)

namespace StageName

/-- The stages of a reconciliation, with or without a map. -/
def course (mapped : Bool) : List StageName :=
  [.group, .permission, .manufacturer, .role, .deviceType, .site] ++
    (if mapped then [.networkMap] else []) ++ [.prefixDescription]

theorem nodup_course (mapped : Bool) : (course mapped).Nodup := by
  cases mapped <;> decide

/-- The request that a stage begins with. Without a map there is nothing to ask in its stage. -/
def opening? (source? : Option MapSource) : StageName → Option StoreRequest
  | .group => some (.list .group)
  | .permission => some (.list .objectType)
  | .manufacturer => some (.list .manufacturer)
  | .role => some (.list .role)
  | .deviceType => some (.list .deviceType)
  | .site => some (.list .site)
  | .networkMap =>
    match source? with
    | some (.ok (some _)) => some (.list .ipPrefix)
    | _ => none
  | .prefixDescription => some .listUndescribed

/-- A failure that ends the stage before anything is said: that of reading the map. -/
def fault? (source? : Option MapSource) : StageName → Option Failure
  | .networkMap =>
    match source? with
    | some (.error failure) => some failure
    | _ => none
  | _ => none

end StageName

theorem Report.mem_abortedStages {report : Report} {name : StageName} :
    name ∈ report.abortedStages ↔
      ∃ stage ∈ report.stages, stage.aborted.isSome ∧ stage.stage = name := by
  simp [abortedStages, and_assoc]

/-- The index that a stage of the catalog has returned. -/
def Inventory.index? (inventory : Inventory) : StageName → Option NameIndex
  | .group => some inventory.groups
  | .permission => some inventory.permissions
  | .manufacturer => some inventory.manufacturers
  | .role => some inventory.roles
  | .deviceType => some inventory.deviceTypes
  | .site => some inventory.sites
  | .networkMap => none
  | .prefixDescription => none

/-- The report of a stage in which `own` was said. -/
structure StageReport.Tells (source? : Option MapSource) (own : Transcript)
    (report : StageReport) : Prop where
  belongs : ∀ e ∈ own, e.question.stage = report.stage
  created : report.created = own.countP Exchange.isCreated
  updated : report.updated = own.countP Exchange.isPointed + own.countP Exchange.isDescribed
  refusals : report.rejections.map (·.error) = own.filterMap Exchange.refusal?
  skipped : report.stage ≠ .networkMap → report.skipped = own.countP Exchange.isUndescribed
  aborted : ∀ failure, report.aborted = some failure ↔ report.stage.fault? source? = some failure ∨
    ∃ e ∈ own, ∃ error, e.fatal? = some error ∧ failure = .ofStore error
  silent : ∀ before e after, own = before ++ e :: after → e.fatal?.isSome → after = []
  opening : own.head?.map (·.question) = report.stage.opening? source?

theorem StageReport.Tells.isSome_aborted_iff {source? : Option MapSource} {own : Transcript}
    {report : StageReport} (h : report.Tells source? own) : report.aborted.isSome ↔
      (∃ e ∈ own, e.fatal?.isSome) ∨ ∃ failure, report.stage.fault? source? = some failure := by
  rw [Option.isSome_iff_exists]
  constructor
  · rintro ⟨failure, hfailure⟩
    obtain hfault | ⟨e, he, error, herror, -⟩ := (h.aborted failure).1 hfailure
    · exact .inr ⟨failure, hfault⟩
    · exact .inl ⟨e, he, by simp [herror]⟩
  · rintro (⟨e, he, hfatal⟩ | ⟨failure, hfault⟩)
    · obtain ⟨error, herror⟩ := Option.isSome_iff_exists.1 hfatal
      exact ⟨_, (h.aborted _).2 (.inr ⟨e, he, error, herror, rfl⟩)⟩
    · exact ⟨failure, (h.aborted failure).2 (.inl hfault)⟩

namespace Stage

variable {α : Type} {name : StageName} {source? : Option MapSource} {own : Transcript}
  {report : StageReport}

theorem Balanced.tells {a : α}
    (h : Balanced name own (.ok a : Except Failure α) { stage := name } report)
    (unfaulted : name.fault? source? = none)
    (opening : own.head?.map (·.question) = name.opening? source?) : report.Tells source? own := by
  obtain rfl : report.stage = name := h.stage
  refine ⟨h.belongs, by simpa using h.created, by simpa using h.updated, by simpa using h.refusals,
    by simpa using h.skipped, fun failure => ?_, fun _ _ _ => h.ends.silent, opening⟩
  have quiet : ¬∃ e ∈ own, ∃ error, e.fatal? = some error ∧ failure = .ofStore error := by
    rintro ⟨e, he, error, herror, -⟩
    simp [h.ends e he] at herror
  simp [h.aborted, unfaulted, quiet]

theorem Balanced.tells_of_error {failure : Failure}
    (h : Balanced name own (.error failure : Except Failure α) { stage := name } report)
    (unfaulted : name.fault? source? = none)
    (opening : own.head?.map (·.question) = name.opening? source?) :
    StageReport.Tells source? own { report with aborted := some failure } := by
  obtain rfl : report.stage = name := h.stage
  refine ⟨h.belongs, by simpa using h.created, by simpa using h.updated, by simpa using h.refusals,
    by simpa using h.skipped, fun failure' => ?_, fun _ _ _ => h.ends.silent, opening⟩
  rw [unfaulted, ← h.ends.eq_iff]
  simp

/-- A stage that is over tells what was said in it, and one that ended early results in nothing. -/
structure Concluded [Inhabited α] (name : StageName) (source? : Option MapSource)
    (own : Transcript) (result : StageReport × α) : Prop where
  stage : result.1.stage = name
  tells : result.1.Tells source? own
  empty : result.1.aborted.isSome → result.2 = default

theorem Concluded.index?_eq_empty {index : NameIndex} (h : Concluded name source? own (report, index))
    {inventory : Inventory} (listed : inventory.index? name = some index) :
    report.aborted.isSome → ∀ index ∈ inventory.index? report.stage, index = .empty := by
  intro aborted index' hindex'
  rw [show report.stage = name from h.stage, listed] at hindex'
  cases hindex'
  exact h.empty aborted

theorem Balances.conclude [Inhabited α] {stage : Stage α} {request : StoreRequest}
    (balances : stage.Balances name []) (opens : stage.Opens request) (source? : Option MapSource)
    (unfaulted : name.fault? source? = none) (opening : name.opening? source? = some request)
    (said : Transcript) : (stage.conclude name).Ensures Conduct.recorded
      (fun result said' => ∃ own, said' = said ++ own ∧ Concluded name source? own result) said := by
  have both : stage.Ensures Conduct.recorded (fun result report said' => ∃ own,
      said' = said ++ own ∧ Balanced name own result { stage := name } report ∧
        own.head?.map (·.question) = name.opening? source?) { stage := name } said := by
    refine (Dialogue.Ensures.and (balances _ said rfl) (opens _ said)).mono ?_
    rintro result said' ⟨⟨own, rfl, balanced⟩, answer, rest, heq⟩
    obtain rfl := List.append_cancel_left heq
    exact ⟨_, rfl, balanced, opening.symm⟩
  refine both.conclude ?_ ?_
  · rintro a report said' ⟨own, rfl, balanced, hopening⟩
    have unaborted : report.aborted = none := balanced.aborted
    exact ⟨own, rfl, balanced.stage, balanced.tells unfaulted hopening, by simp [unaborted]⟩
  · rintro failure report said' ⟨own, rfl, balanced, hopening⟩
    exact ⟨own, rfl, balanced.stage, balanced.tells_of_error unfaulted hopening, fun _ => rfl⟩

end Stage

/-! ## Stages one after the other -/

/-- The reports of stages that came one after the other, and all that was said. -/
inductive Chronicle (source? : Option MapSource) : List StageReport → Transcript → Prop where
  | nil : Chronicle source? [] []
  | concat {reports : List StageReport} {said : Transcript} {report : StageReport}
    {own : Transcript} (h : Chronicle source? reports said) (last : report.Tells source? own) :
    Chronicle source? (reports ++ [report]) (said ++ own)

namespace Transcript

theorem ofStage_append (said said' : Transcript) (stage : StageName) :
    ofStage (said ++ said') stage = said.ofStage stage ++ said'.ofStage stage :=
  List.filter_append ..

theorem ofStage_eq_self {said : Transcript} {stage : StageName}
    (h : ∀ e ∈ said, e.question.stage = stage) : said.ofStage stage = said :=
  List.filter_eq_self.2 fun e he => decide_eq_true (h e he)

theorem ofStage_eq_nil {said : Transcript} {stage : StageName}
    (h : ∀ e ∈ said, e.question.stage ≠ stage) : said.ofStage stage = [] :=
  List.filter_eq_nil_iff.2 fun e he => by simpa using h e he

end Transcript

namespace Chronicle

variable {source? : Option MapSource} {reports : List StageReport} {said : Transcript}

theorem stage_mem (h : Chronicle source? reports said) :
    ∀ e ∈ said, e.question.stage ∈ reports.map (·.stage) := by
  induction h with
  | nil => simp
  | concat _ last ih =>
    intro e he
    rw [List.map_append, List.mem_append]
    obtain he | he := List.mem_append.1 he
    · exact .inl (ih e he)
    · exact .inr (by simp [last.belongs e he])

/-- The reports tell what the requests of their stages show, and the stages do not overlap. -/
theorem tells (h : Chronicle source? reports said) (nodup : (reports.map (·.stage)).Nodup) :
    (∀ report ∈ reports, report.Tells source? (said.ofStage report.stage)) ∧
      said = reports.flatMap fun report => said.ofStage report.stage := by
  induction h with
  | nil => simp
  | @concat reports said last own before told ih =>
    rw [List.map_append, List.map_singleton, List.nodup_append] at nodup
    obtain ⟨nodup, -, disjoint⟩ := nodup
    obtain ⟨tells, hsaid⟩ := ih nodup
    have fresh : ∀ report ∈ reports, report.stage ≠ last.stage := fun report hreport =>
      disjoint _ (List.mem_map_of_mem hreport) _ List.mem_cons_self
    -- nothing of the last stage was said before it, and nothing of the others in it
    have unsaid : said.ofStage last.stage = [] := by
      refine Transcript.ofStage_eq_nil fun e he heq => ?_
      exact disjoint _ (before.stage_mem e he) _ List.mem_cons_self heq
    have others : ∀ report ∈ reports,
        Transcript.ofStage (said ++ own) report.stage = said.ofStage report.stage := by
      intro report hreport
      have absent : own.ofStage report.stage = [] :=
        Transcript.ofStage_eq_nil fun e he => by
          rw [told.belongs e he]
          exact (fresh report hreport).symm
      rw [Transcript.ofStage_append, absent, List.append_nil]
    have here : Transcript.ofStage (said ++ own) last.stage = own := by
      rw [Transcript.ofStage_append, unsaid, Transcript.ofStage_eq_self told.belongs,
        List.nil_append]
    constructor
    · intro report hreport
      obtain hreport | hreport := List.mem_append.1 hreport
      · rw [others report hreport]
        exact tells report hreport
      · rw [List.mem_singleton.1 hreport, here]
        exact told
    · have earlier : (reports.flatMap fun report =>
          Transcript.ofStage (said ++ own) report.stage) = said := by
        rw [List.flatMap_def, List.map_congr_left others, ← List.flatMap_def, ← hsaid]
      rw [List.flatMap_append, List.flatMap_singleton, here, earlier]

theorem totalCreated (h : Chronicle source? reports said) :
    (reports.map (·.created)).sum = said.countP Exchange.isCreated := by
  induction h with
  | nil => rfl
  | concat _ last ih => simp [ih, last.created]

end Chronicle

namespace Reconcile

/-! ## The stages of the catalog -/

theorem balances_ensurePermissions (catalog : Catalog) (groups : NameIndex) :
    (ensurePermissions catalog groups).Balances .permission [] :=
  (Stage.Balances.demand (.list .objectType) rfl).bind fun _ => .ensure .permission _

/-! ## The stage of the network map -/

theorem balances_createInterface (host : Host) (device : Int) :
    (createInterface host device).Balances .networkMap [] := by
  rw [createInterface_eq]
  cases interfaceFor? device host.address with
  | none => exact .pure ()
  | some draft => exact .attempt .interface _ draft

theorem balances_createDevice (inventory : Inventory) (host : Host) :
    (createDevice inventory host).Balances .networkMap [] := by
  refine .ask_bind fun answer => ?_
  cases answer with
  | ok device =>
    exact (Stage.Balances.noteCreated .device).bind fun _ =>
      balances_createInterface host device.id
  | error error =>
    exact .tolerate (.create .device (deviceDraft inventory host.name)) rfl error _

theorem balances_createDevices (existing : NameIndex) (inventory : Inventory)
    (attempted : List String) (hosts : List Host) :
    (createDevices existing inventory attempted hosts).Balances .networkMap [] := by
  induction hosts generalizing attempted with
  | nil => exact .pure ()
  | cons host rest ih =>
    rw [createDevices_cons]
    split
    · exact ih attempted
    · exact (balances_createDevice inventory host).bind fun _ => ih _

theorem balances_ensureDevices (hosts : List Host) (inventory : Inventory) :
    (ensureDevices hosts inventory).Balances .networkMap [] :=
  (Stage.Balances.readIndex .device).bind fun existing =>
    (balances_createDevices existing inventory [] hosts).bind fun _ => .readIndex .device

theorem balances_pointDevice (host : Host) (device : Int) (primary : Draft.PrimaryAddress) :
    (pointDevice host device primary).Balances .networkMap [] := by
  refine .ask_bind fun answer => ?_
  cases answer with
  | ok _ => exact .notePointed
  | error error => exact .tolerate (.setPrimary device primary) rfl error _

theorem balances_bindAddress (host : Host) (ip : IpAddress) (key : String)
    (device interface : Int) :
    (bindAddress host ip key device interface).Balances .networkMap [] := by
  refine .ask_bind fun answer => ?_
  cases answer with
  | ok address =>
    exact (Stage.Balances.noteCreated .address).bind fun _ =>
      (balances_pointDevice host device _).bind fun _ => .pure true
  | error error =>
    have noted : (Stage.tolerate key error).Balances .networkMap
        [⟨.create .address (addressDraft key interface), .error error⟩] :=
      .tolerate (.create .address (addressDraft key interface)) rfl error key
    exact noted.bind fun _ => .pure false

theorem balances_createAddresses (existing devices : NameIndex) (interfaces : Index Int)
    (assigned : List Int) (hosts : List Host) :
    (createAddresses existing devices interfaces assigned hosts).Balances .networkMap [] := by
  induction hosts generalizing assigned with
  | nil => exact .pure ()
  | cons host rest ih =>
    rw [createAddresses_cons]
    split
    · exact ih assigned
    · split
      · exact Stage.Balances.noteHost.bind fun _ => ih _
      · split
        · exact Stage.Balances.noteHost.bind fun _ => ih _
        · exact (balances_bindAddress host _ _ _ _).bind fun _ => ih _

theorem balances_importNetworkMap (map : NetworkMap) (inventory : Inventory) :
    (importNetworkMap map inventory).Balances .networkMap [] := by
  refine (Stage.Balances.ensure .ipPrefix _).bind fun _ => ?_
  refine (balances_ensureDevices map.hosts inventory).bind fun devices => ?_
  refine (Stage.Balances.demand (.list .interface) rfl).bind fun _ => ?_
  exact (Stage.Balances.readIndex .address).bind fun existing =>
    balances_createAddresses existing devices _ [] map.hosts

/-! ## The stage of prefix descriptions -/

theorem balances_describePrefix (network : Record.IpPrefix) :
    (describePrefix network).Balances .prefixDescription [] := by
  rw [describePrefix]
  split
  · exact .pure ()
  · refine .ask_bind fun answer => ?_
    cases answer with
    | ok _ => exact .noteDescribed
    | error _ => exact .noteUndescribed

theorem balances_describePrefixes (networks : List Record.IpPrefix) :
    (describePrefixes networks).Balances .prefixDescription [] := by
  induction networks with
  | nil => exact .pure ()
  | cons network rest ih =>
    rw [describePrefixes_cons]
    exact (balances_describePrefix network).bind fun _ => ih

theorem balances_backfillDescriptions : backfillDescriptions.Balances .prefixDescription [] :=
  (Stage.Balances.demand (.listUndescribed) rfl).bind balances_describePrefixes

/-! ## All stages -/

variable {source? : Option MapSource}

/-- What stages of the catalog leave behind: their reports, and the indices that they returned. -/
structure Recorded (source? : Option MapSource) (stages : List StageName)
    (reports : List StageReport) (inventory : Inventory) (said : Transcript) : Prop where
  chronicle : Chronicle source? reports said
  stages : reports.map (·.stage) = stages
  empty : ∀ report ∈ reports, report.aborted.isSome →
    ∀ index ∈ inventory.index? report.stage, index = .empty

theorem recorded_runCatalog (source? : Option MapSource) (catalog : Catalog) (palette : Palette) :
    (runCatalog catalog palette).Ensures Conduct.recorded (fun result said =>
      Recorded source? [.group, .permission, .manufacturer, .role, .deviceType, .site] result.1
        result.2 said) [] := by
  have ensured (kind : Kind) (wanted : NameIndex → List (String × kind.Draft))
      (opening : kind.stage.opening? source? = some (.list kind))
      (unfaulted : kind.stage.fault? source? = none) (said : Transcript) :=
    (Stage.Balances.ensure kind wanted).conclude (.ensure kind wanted) source? unfaulted opening said
  refine (ensured .group _ rfl rfl _).bind ?_
  rintro ⟨group, groups⟩ _ ⟨own₁, rfl, hgroup⟩
  refine ((balances_ensurePermissions catalog groups).conclude
    ((Stage.Opens.demand (.list .objectType)).bind _) source? rfl rfl _).bind ?_
  rintro ⟨permission, permissions⟩ _ ⟨own₂, rfl, hpermission⟩
  refine (ensured .manufacturer _ rfl rfl _).bind ?_
  rintro ⟨manufacturer, manufacturers⟩ _ ⟨own₃, rfl, hmanufacturer⟩
  refine (ensured .role _ rfl rfl _).bind ?_
  rintro ⟨role, roles⟩ _ ⟨own₄, rfl, hrole⟩
  refine (ensured .deviceType _ rfl rfl _).bind ?_
  rintro ⟨deviceType, deviceTypes⟩ _ ⟨own₅, rfl, hdeviceType⟩
  refine (ensured .site _ rfl rfl _).bind ?_
  rintro ⟨site, sites⟩ _ ⟨own₆, rfl, hsite⟩
  have chronicle := (((((Chronicle.nil.concat hgroup.tells).concat hpermission.tells).concat
    hmanufacturer.tells).concat hrole.tells).concat hdeviceType.tells).concat hsite.tells
  refine ⟨chronicle, congrArg₂ List.cons hgroup.stage <| congrArg₂ List.cons hpermission.stage <|
    congrArg₂ List.cons hmanufacturer.stage <| congrArg₂ List.cons hrole.stage <|
    congrArg₂ List.cons hdeviceType.stage <| congrArg₂ List.cons hsite.stage rfl, ?_⟩
  simp only [List.forall_mem_cons]
  exact ⟨hgroup.index?_eq_empty rfl, hpermission.index?_eq_empty rfl,
    hmanufacturer.index?_eq_empty rfl, hrole.index?_eq_empty rfl, hdeviceType.index?_eq_empty rfl,
    hsite.index?_eq_empty rfl, by simp⟩

theorem Recorded.concat {stages : List StageName} {reports : List StageReport}
    {inventory : Inventory} {said own : Transcript} {report : StageReport}
    (h : Recorded source? stages reports inventory said) (tells : report.Tells source? own)
    {name : StageName} (stage : report.stage = name) (unlisted : inventory.index? name = none) :
    Recorded source? (stages ++ [name]) (reports ++ [report]) inventory (said ++ own) where
  chronicle := h.chronicle.concat tells
  stages := by rw [List.map_append, h.stages, List.map_singleton, stage]
  empty := by
    refine List.forall_mem_append.2 ⟨h.empty, List.forall_mem_singleton.2 fun _ index hindex => ?_⟩
    simp [stage, unlisted] at hindex

theorem concluded_networkMapStage (source : MapSource) (inventory : Inventory)
    (said : Transcript) : ((networkMapStage source inventory).conclude .networkMap).Ensures
      Conduct.recorded (fun result said' => ∃ own, said' = said ++ own ∧
        result.1.stage = .networkMap ∧ result.1.Tells (some source) own) said := by
  obtain failure | _ | map := source
  · refine ⟨[], by simp, rfl, ?_⟩
    constructor <;> simp [StageName.fault?, StageName.opening?]
  · refine ⟨[], by simp, rfl, ?_⟩
    constructor <;> simp [StageName.fault?, StageName.opening?]
  · refine ((balances_importNetworkMap map inventory).conclude
      ((Stage.Opens.ensure .ipPrefix _).bind _) (some (.ok (some map))) rfl rfl said).mono ?_
    rintro result said' ⟨own, rfl, concluded⟩
    exact ⟨own, rfl, concluded.stage, concluded.tells⟩

/-- The chronicle of a reconciliation, whatever the database answers. -/
theorem run_chronicle (catalog : Catalog) (source? : Option MapSource) (palette : Palette) :
    (run catalog source? palette).Ensures Conduct.recorded (fun report said =>
      Recorded source? (StageName.course source?.isSome) report.stages report.inventory said)
      [] := by
  refine (recorded_runCatalog source? catalog palette).bind ?_
  rintro ⟨reports, inventory⟩ said recorded
  have mapped : (runNetworkMap source? inventory).Ensures Conduct.recorded (fun mapReports said =>
      Recorded source? ([.group, .permission, .manufacturer, .role, .deviceType, .site] ++
        if source?.isSome then [.networkMap] else []) (reports ++ mapReports) inventory said)
      said := by
    cases source? with
    | none => simpa [runNetworkMap] using recorded
    | some source =>
      refine (concluded_networkMapStage source inventory said).bind ?_
      rintro ⟨report, _⟩ _ ⟨own, rfl, stage, tells⟩
      exact recorded.concat tells stage rfl
  refine mapped.bind fun mapReports said recorded => ?_
  refine (balances_backfillDescriptions.conclude ((Stage.Opens.demand .listUndescribed).bind _)
    source? rfl rfl said).bind ?_
  rintro ⟨report, _⟩ _ ⟨own, rfl, concluded⟩
  exact recorded.concat concluded.tells concluded.stage rfl

theorem recorded_run {σ : Type} (respond : Responder StoreProtocol σ) (s : σ) (catalog : Catalog)
    (source? : Option MapSource) (palette : Palette) :
    Recorded source? (StageName.course source?.isSome)
      ((run catalog source? palette).run respond s).1.stages
      ((run catalog source? palette).run respond s).1.inventory
      ((run catalog source? palette).exchanges respond s) :=
  (run_chronicle catalog source? palette).exchanges s

end Reconcile

end AssetSeed
