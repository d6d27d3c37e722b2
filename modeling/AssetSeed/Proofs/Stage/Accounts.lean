import AssetSeed.Proofs.Stage.Ensures
import AssetSeed.Proofs.Store.Transcript
import Mathlib.Data.List.Induction

/-!
# What a stage says and what it reports

Nothing is assumed about the database here. Whatever it answers, the report of a stage accounts for
all that has been said in the stage, and the first fatal failure is the last thing said.

## Main definitions

* `StoreRequest.stage`, `Transcript.ofStage` — the stage that a request belongs to.
* `StageReport.Accounts` — how a report goes on with what is said.
* `Transcript.Ends` — how the result of a stage follows from what is said.
* `Stage.Balances` — the law of a stage, after something that it has not accounted for yet.
* `Stage.Opens` — the request that a stage begins with.

## Main statements

* `Stage.Balances.bind`, `Stage.Balances.ask_bind` — the law for stages in sequence.
* `Stage.Balances.createMissing`, `Stage.Balances.ensure` — the law for creating what is missing.
-/

namespace AssetSeed

/-- The stage that talks about records of the kind. -/
def Kind.stage : Kind → StageName
  | .group => .group
  | .objectType => .permission
  | .permission => .permission
  | .manufacturer => .manufacturer
  | .role => .role
  | .deviceType => .deviceType
  | .site => .site
  | .ipPrefix => .networkMap
  | .device => .networkMap
  | .interface => .networkMap
  | .address => .networkMap

def StoreRequest.stage : StoreRequest → StageName
  | .list kind => kind.stage
  | .listUndescribed => .prefixDescription
  | .create kind _ => kind.stage
  | .describe _ _ => .prefixDescription
  | .setPrimary _ _ => .networkMap

/-- What has been said in a stage. -/
def Transcript.ofStage (said : Transcript) (stage : StageName) : Transcript :=
  said.filter fun e => e.question.stage = stage

/-- The report goes on with what is said. Hosts that are passed over are counted too, but nothing is
said of them. -/
structure StageReport.Accounts (own : Transcript) (old new : StageReport) : Prop where
  stage : new.stage = old.stage
  created : new.created = old.created + own.countP Exchange.isCreated
  updated : new.updated =
    old.updated + own.countP Exchange.isPointed + own.countP Exchange.isDescribed
  refusals : new.rejections.map (·.error) =
    old.rejections.map (·.error) ++ own.filterMap Exchange.refusal?
  skipped : old.stage ≠ .networkMap →
    new.skipped = old.skipped + own.countP Exchange.isUndescribed
  aborted : new.aborted = old.aborted

/-- A stage goes through if no failure was fatal. Else the fatal one is the last thing said. -/
def Transcript.Ends {α : Type} (own : Transcript) : Except Failure α → Prop
  | .ok _ => ∀ e ∈ own, e.fatal? = none
  | .error failure => ∃ before last error, own = before ++ [last] ∧
      (∀ e ∈ before, e.fatal? = none) ∧ last.fatal? = some error ∧ failure = .ofStore error

namespace StageReport.Accounts

theorem trans {own own' : Transcript} {old mid new : StageReport}
    (first : Accounts own old mid) (second : Accounts own' mid new) :
    Accounts (own ++ own') old new where
  stage := second.stage.trans first.stage
  created := by rw [second.created, first.created, List.countP_append, Nat.add_assoc]
  updated := by
    rw [second.updated, first.updated, List.countP_append, List.countP_append]
    omega
  refusals := by rw [second.refusals, first.refusals, List.filterMap_append, List.append_assoc]
  skipped h := by
    have h' : mid.stage ≠ .networkMap := first.stage ▸ h
    rw [second.skipped h', first.skipped h, List.countP_append, Nat.add_assoc]
  aborted := second.aborted.trans first.aborted

theorem refl (report : StageReport) : Accounts [] report report := by
  constructor <;> simp

theorem noteCreated {kind : Kind} {draft : kind.Draft} {r : kind.Record} (report : StageReport) :
    Accounts [⟨.create kind draft, .ok r⟩] report { report with created := report.created + 1 } := by
  constructor <;> simp [Exchange.refusal?]

theorem noteRejected {request : StoreRequest} {error : StoreError} (noted : request.isNoted)
    (rejected : error.isRejected) (subject : String) (report : StageReport) :
    Accounts [⟨request, .error error⟩] report
      { report with rejections := report.rejections ++ [⟨subject, error⟩] } := by
  cases request with
  | create kind draft => constructor <;> simp [Exchange.refusal?, StoreRequest.isNoted, rejected]
  | setPrimary device primary =>
    constructor <;> simp [Exchange.refusal?, StoreRequest.isNoted, rejected]
  | _ => cases noted

theorem notePointed {device : Int} {primary : Draft.PrimaryAddress} {r : Record.Device}
    (report : StageReport) : Accounts [⟨.setPrimary device primary, .ok r⟩] report
      { report with updated := report.updated + 1 } := by
  constructor <;> simp [Exchange.refusal?]

theorem noteDescribed {id : Int} {description : String} {r : Record.IpPrefix}
    (report : StageReport) : Accounts [⟨.describe id description, .ok r⟩] report
      { report with updated := report.updated + 1 } := by
  constructor <;> simp [Exchange.refusal?]

theorem noteUndescribed {id : Int} {description : String} {error : StoreError}
    (report : StageReport) : Accounts [⟨.describe id description, .error error⟩] report
      { report with skipped := report.skipped + 1 } := by
  constructor <;> simp [Exchange.refusal?, StoreRequest.isNoted]

theorem noteHost {report : StageReport} (h : report.stage = .networkMap) :
    Accounts [] report { report with skipped := report.skipped + 1 } := by
  constructor <;> simp [h]

/-- A failure that ends the stage is not noted among the rejections. -/
theorem failed {request : StoreRequest} {error : StoreError} (noted : request.isNoted)
    (fatal : error.isRejected = false) (report : StageReport) :
    Accounts [⟨request, .error error⟩] report report := by
  cases request with
  | create kind draft => constructor <;> simp [Exchange.refusal?, fatal]
  | setPrimary device primary => constructor <;> simp [Exchange.refusal?, fatal]
  | _ => cases noted

theorem listed {request : StoreRequest} (listing : request.isListing)
    (answer : Except StoreError request.Reply) (report : StageReport) :
    Accounts [⟨request, answer⟩] report report := by
  cases request with
  | list kind => cases answer <;> constructor <;> simp [Exchange.refusal?, StoreRequest.isNoted]
  | listUndescribed =>
    cases answer <;> constructor <;> simp [Exchange.refusal?, StoreRequest.isNoted]
  | _ => cases listing

end StageReport.Accounts

namespace Transcript.Ends

variable {α β : Type} {own own' : Transcript}

theorem append {a : α} {result : Except Failure β} (first : own.Ends (.ok a : Except Failure α))
    (second : own'.Ends result) : Ends (own ++ own') result := by
  cases result with
  | ok b => exact List.forall_mem_append.2 ⟨first, second⟩
  | error failure =>
    obtain ⟨before, last, error, rfl, hbefore, hlast, rfl⟩ := second
    exact ⟨own ++ before, last, error, (List.append_assoc _ _ _).symm,
      List.forall_mem_append.2 ⟨first, hbefore⟩, hlast, rfl⟩

/-- The failure of the stage is the one failure that was fatal. -/
theorem eq_iff {failure failure' : Failure} (h : own.Ends (.error failure : Except Failure α)) :
    failure = failure' ↔ ∃ e ∈ own, ∃ error, e.fatal? = some error ∧ failure' = .ofStore error := by
  obtain ⟨before, last, error, rfl, hbefore, hlast, rfl⟩ := h
  constructor
  · rintro rfl
    exact ⟨last, by simp, error, hlast, rfl⟩
  · rintro ⟨e, he, error', herror', rfl⟩
    obtain he | he := List.mem_append.1 he
    · simp [hbefore e he] at herror'
    · rw [List.mem_singleton.1 he, hlast] at herror'
      rw [Option.some.inj herror']

/-- Nothing is said after a fatal failure. -/
theorem silent {result : Except Failure α} (h : own.Ends result) {before after : Transcript}
    {e : Exchange StoreProtocol} (split : own = before ++ e :: after) (fatal : e.fatal?.isSome) :
    after = [] := by
  cases result with
  | ok a => simp [h e (by simp [split])] at fatal
  | error failure =>
    obtain ⟨quiet, last, error, rfl, hquiet, -, -⟩ := h
    cases after using List.reverseRecOn with
    | nil => rfl
    | append_singleton after e' =>
      rw [← List.cons_append, ← List.append_assoc] at split
      have earlier : e ∈ quiet := by simp [(List.append_inj' split rfl).1]
      simp [hquiet e earlier] at fatal

end Transcript.Ends

namespace Stage

variable {α β : Type} {name : StageName} {due : Transcript}

/-- A stage that has said `own` has said what belongs to it, reports it and ends accordingly. -/
structure Balanced (name : StageName) (own : Transcript) (result : Except Failure α)
    (old new : StageReport) : Prop extends StageReport.Accounts own old new where
  belongs : ∀ e ∈ own, e.question.stage = name
  ends : own.Ends result

theorem Balanced.append {own own' : Transcript} {a : α} {result : Except Failure β}
    {old mid new : StageReport} (first : Balanced name own (.ok a : Except Failure α) old mid)
    (second : Balanced name own' result mid new) : Balanced name (own ++ own') result old new where
  toAccounts := first.toAccounts.trans second.toAccounts
  belongs := List.forall_mem_append.2 ⟨first.belongs, second.belongs⟩
  ends := first.ends.append second.ends

/-- Whoever answers, a stage that goes on after `due` has been said is balanced in the end, with
`due` as the first part of what it has said. -/
def Balances (name : StageName) (due : Transcript) (stage : Stage α) : Prop :=
  ∀ report said, report.stage = name → stage.Ensures Conduct.recorded (fun result report' said' =>
    ∃ own, said' = said ++ own ∧ Balanced name (due ++ own) result report report') report said

namespace Balances

/-- A stage that says no more has to account for what was due. -/
theorem of_done {stage : Stage α} (h : ∀ report, report.stage = name → ∃ result report',
    stage.dialogue report = .done (result, report') ∧ Balanced name due result report report') :
    stage.Balances name due := by
  intro report said hname
  obtain ⟨result, report', hdone, balanced⟩ := h report hname
  rw [Ensures, hdone]
  exact ⟨[], (List.append_nil _).symm, by rwa [List.append_nil]⟩

theorem bind {stage : Stage α} {next : α → Stage β} (h : stage.Balances name due)
    (rest : ∀ a, (next a).Balances name []) : (stage >>= next).Balances name due := by
  intro report said hname
  refine (h report said hname).bind ?_ ?_
  · rintro a report' said' ⟨own, rfl, balanced⟩
    refine (rest a report' _ (balanced.stage.trans hname)).mono ?_
    rintro result report'' said'' ⟨own', rfl, balanced'⟩
    refine ⟨own ++ own', List.append_assoc _ _ _, ?_⟩
    rw [← List.append_assoc]
    exact balanced.append balanced'
  · rintro failure report' said' ⟨own, rfl, balanced⟩
    exact ⟨own, rfl, { balanced with ends := balanced.ends }⟩

/-- What is asked is due in the stage that gets the answer. -/
theorem ask_bind {request : StoreRequest} {next : Except StoreError request.Reply → Stage α}
    (rest : ∀ answer, (next answer).Balances name [⟨request, answer⟩]) :
    (ask request >>= next).Balances name [] := by
  intro report said hname
  refine ensures_ask_bind.2 ?_
  rintro answer _ rfl
  refine (rest answer report _ hname).mono ?_
  rintro result report' said' ⟨own, rfl, balanced⟩
  exact ⟨⟨request, answer⟩ :: own, List.append_assoc _ _ _, balanced⟩

theorem pure (a : α) : (pure a : Stage α).Balances name [] :=
  of_done fun report _ => ⟨.ok a, report, rfl, .refl report, by simp, by simp [Transcript.Ends]⟩

theorem noteCreated (kind : Kind) {draft : kind.Draft} {r : kind.Record} :
    noteCreated.Balances kind.stage [⟨.create kind draft, .ok r⟩] :=
  of_done fun report _ => ⟨.ok (), _, rfl, .noteCreated report, by simp [StoreRequest.stage],
    by simp [Transcript.Ends, Exchange.fatal?]⟩

theorem notePointed {device : Int} {primary : Draft.PrimaryAddress} {r : Record.Device} :
    noteUpdated.Balances .networkMap [⟨.setPrimary device primary, .ok r⟩] :=
  of_done fun report _ => ⟨.ok (), _, rfl, .notePointed report, by simp [StoreRequest.stage],
    by simp [Transcript.Ends, Exchange.fatal?]⟩

theorem noteDescribed {id : Int} {description : String} {r : Record.IpPrefix} :
    noteUpdated.Balances .prefixDescription [⟨.describe id description, .ok r⟩] :=
  of_done fun report _ => ⟨.ok (), _, rfl, .noteDescribed report, by simp [StoreRequest.stage],
    by simp [Transcript.Ends, Exchange.fatal?]⟩

theorem noteUndescribed {id : Int} {description : String} {error : StoreError} :
    noteSkipped.Balances .prefixDescription [⟨.describe id description, .error error⟩] :=
  of_done fun report _ => ⟨.ok (), _, rfl, .noteUndescribed report, by simp [StoreRequest.stage],
    by simp [Transcript.Ends, Exchange.fatal?, StoreRequest.tolerates]⟩

/-- Nothing is said of a host that is passed over. -/
theorem noteHost : noteSkipped.Balances .networkMap [] :=
  of_done fun report hname => ⟨.ok (), _, rfl, .noteHost hname, by simp, by simp [Transcript.Ends]⟩

theorem tolerate (request : StoreRequest) (noted : request.isNoted) (error : StoreError)
    (subject : String) :
    (tolerate subject error).Balances request.stage [⟨request, .error error⟩] := by
  have fatal : Exchange.fatal? ⟨request, .error error⟩ =
      if error.isRejected then none else some error := by
    cases request <;> first | rfl | cases noted
  refine of_done fun report _ => ?_
  rw [Stage.tolerate]
  cases h : error.isRejected with
  | true =>
    rw [if_pos h] at fatal
    exact ⟨.ok (), _, rfl, .noteRejected noted h subject report, by simp,
      List.forall_mem_singleton.2 fatal⟩
  | false =>
    rw [if_neg (by simp [h])] at fatal
    exact ⟨.error (.ofStore error), report, rfl, .failed noted h report, by simp, [],
      _, error, rfl, by simp, fatal, rfl⟩

theorem demand (request : StoreRequest) (listing : request.isListing) :
    (demand request).Balances request.stage [] := by
  refine ask_bind fun answer => of_done fun report _ => ?_
  cases answer with
  | ok reply =>
    exact ⟨.ok reply, report, rfl, .listed listing _ report, by simp,
      by simp [Transcript.Ends, Exchange.fatal?]⟩
  | error error =>
    have fatal : Exchange.fatal? ⟨request, .error error⟩ = some error := by
      cases request <;> first | rfl | cases listing
    exact ⟨.error (.ofStore error), report, rfl, .listed listing _ report, by simp, [], _,
      error, rfl, by simp, fatal, rfl⟩

theorem readIndex (kind : Kind) : (readIndex kind).Balances kind.stage [] :=
  (demand (.list kind) rfl).bind fun _ => .pure _

theorem attempt (kind : Kind) (key : String) (draft : kind.Draft) :
    (attempt kind key draft).Balances kind.stage [] := by
  refine ask_bind fun answer => ?_
  cases answer with
  | ok r => exact noteCreated kind
  | error error => exact tolerate (.create kind draft) rfl error key

theorem createMissing (kind : Kind) (existing : NameIndex) (attempted : List String)
    (wanted : List (String × kind.Draft)) :
    (createMissing kind existing attempted wanted).Balances kind.stage [] := by
  induction wanted generalizing attempted with
  | nil => exact .pure ()
  | cons item rest ih =>
    obtain ⟨key, draft⟩ := item
    rw [createMissing_cons]
    split
    · exact ih attempted
    · exact (attempt kind key draft).bind fun _ => ih _

theorem ensure (kind : Kind) (wanted : NameIndex → List (String × kind.Draft)) :
    (ensure kind wanted).Balances kind.stage [] :=
  (readIndex kind).bind fun existing =>
    (createMissing kind existing [] (wanted existing)).bind fun _ => readIndex kind

/-- The report of a stage bears its name, and all its requests belong to it. -/
theorem named [Inhabited α] {stage : Stage α} (h : stage.Balances name []) :
    (stage.conclude name).Ensures Conduct.recorded (fun result said =>
      result.1.stage = name ∧ ∀ e ∈ (said : Transcript), e.question.stage = name) [] := by
  refine (h { stage := name } [] rfl).conclude ?_ ?_
  all_goals
    rintro _ _ _ ⟨own, rfl, balanced⟩
    exact ⟨balanced.stage, balanced.belongs⟩

end Balances

/-! ## How a stage begins -/

/-- The first thing that is said in the stage is the request. -/
def Opens (request : StoreRequest) (stage : Stage α) : Prop :=
  ∀ report said, stage.Ensures Conduct.recorded (fun _ _ said' =>
    ∃ answer rest, said' = said ++ ⟨request, answer⟩ :: rest) report said

namespace Opens

theorem ask_bind (request : StoreRequest) (next : Except StoreError request.Reply → Stage α) :
    (ask request >>= next).Opens request := by
  intro report said
  refine ensures_ask_bind.2 ?_
  rintro answer _ rfl
  refine (Dialogue.ensures_prefix _ _).mono ?_
  rintro _ _ ⟨rest, rfl⟩
  exact ⟨answer, rest, by simp⟩

theorem bind {request : StoreRequest} {stage : Stage α} (h : stage.Opens request)
    (next : α → Stage β) : (stage >>= next).Opens request := by
  intro report said
  refine (h report said).bind ?_ fun _ _ _ h => h
  rintro a report' _ ⟨answer, rest, rfl⟩
  refine (Dialogue.ensures_prefix _ _).mono ?_
  rintro _ _ ⟨more, rfl⟩
  exact ⟨answer, rest ++ more, by simp⟩

theorem demand (request : StoreRequest) : (demand request).Opens request :=
  ask_bind request _

theorem ensure (kind : Kind) (wanted : NameIndex → List (String × kind.Draft)) :
    (ensure kind wanted).Opens (.list kind) :=
  ((demand (.list kind)).bind _).bind _

end Opens

end Stage

end AssetSeed
