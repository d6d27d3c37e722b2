import AssetSeed.Reconcile.Report
import AssetSeed.Store.Protocol

/-!
# Stages

A stage talks to the asset database, keeps a report, and may end early with a failure. A refused
request is noted in the report; any other failure of a create ends the stage.

## Main definitions

* `Stage` — computations of a stage.
* `Stage.demand` — a request whose failure ends the stage.
* `Stage.createMissing` — creates what an index lacks.
* `Stage.ensure` — creates what a collection lacks and reads it again.
* `Stage.perform` — the stage as a dialogue.
* `Stage.conclude` — the report of a finished stage and its result.
-/

namespace AssetSeed

abbrev Stage := ExceptT Failure (StateT StageReport StoreDialogue)

namespace Stage

def ask (request : StoreRequest) : Stage (Except StoreError request.Reply) :=
  ExceptT.lift (StateT.lift (Dialogue.call (P := StoreProtocol) request))

def demand (request : StoreRequest) : Stage request.Reply := do
  match ← ask request with
  | .ok reply => pure reply
  | .error e => throw (.ofStore e)

def noteCreated : Stage Unit :=
  modify fun report => { report with created := report.created + 1 }

def noteUpdated : Stage Unit :=
  modify fun report => { report with updated := report.updated + 1 }

def noteSkipped : Stage Unit :=
  modify fun report => { report with skipped := report.skipped + 1 }

def noteRejected (subject : String) (error : StoreError) : Stage Unit :=
  modify fun report => { report with rejections := report.rejections ++ [⟨subject, error⟩] }

/-- Notes a refusal and goes on; ends the stage on any other failure. -/
def tolerate (subject : String) (error : StoreError) : Stage Unit :=
  if error.isRejected then noteRejected subject error else throw (.ofStore error)

/-- Creates each draft whose key is not empty, not in `existing` and not among the keys `attempted`
before it. -/
def createMissing (kind : Kind) (existing : NameIndex) (attempted : List String) :
    List (String × kind.Draft) → Stage Unit
  | [] => pure ()
  | (key, draft) :: rest =>
    if key.isEmpty || existing.contains key || attempted.contains key then
      createMissing kind existing attempted rest
    else do
      match ← ask (.create kind draft) with
      | .ok _ => noteCreated
      | .error e => tolerate key e
      createMissing kind existing (key :: attempted) rest

/-- The keys of the records, with their identifiers. -/
def keyPairs (kind : Kind) (records : List kind.Record) : List (String × Int) :=
  records.filterMap fun r => (kind.key? r).map (·, kind.id r)

def readIndex (kind : Kind) : Stage NameIndex := do
  let records ← demand (.list kind)
  return Index.ofList (keyPairs kind records)

/-- Creates the drafts that are wanted in view of the collection as it is, where their keys are not
in it yet, and returns the index of the collection as it is then. -/
def ensure (kind : Kind) (wanted : NameIndex → List (String × kind.Draft)) : Stage NameIndex := do
  let existing ← readIndex kind
  createMissing kind existing [] (wanted existing)
  readIndex kind

/-- The stage as a dialogue, from an empty report to the result and the report. -/
def perform {α : Type} (name : StageName) (stage : Stage α) :
    StoreDialogue (Except Failure α × StageReport) :=
  (ExceptT.run stage).run { stage := name }

/-- The report of the stage, and its result; a stage that ended early results in `default`. -/
def conclude {α : Type} [Inhabited α] (name : StageName) (stage : Stage α) :
    StoreDialogue (StageReport × α) := do
  match ← stage.perform name with
  | (.ok value, report) => return (report, value)
  | (.error failure, report) => return ({ report with aborted := some failure }, default)

end Stage

end AssetSeed
