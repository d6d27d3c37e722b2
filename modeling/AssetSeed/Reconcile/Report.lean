import AssetSeed.Failure
import AssetSeed.Index

/-!
# Reports of a reconciliation

## Main definitions

* `StageName` — the stages, in the order in which they run.
* `StageReport` — what one stage did.
* `Inventory` — the records that the stages of the catalog found or made.
* `Report` — what all stages did.
-/

namespace AssetSeed

inductive StageName where
  | group
  | permission
  | manufacturer
  | role
  | deviceType
  | site
  | networkMap
  | prefixDescription
deriving Repr, DecidableEq, Inhabited

def StageName.label : StageName → String
  | group => "group"
  | permission => "permission"
  | manufacturer => "manufacturer"
  | role => "role"
  | deviceType => "device type"
  | site => "site"
  | networkMap => "network map"
  | prefixDescription => "prefix description"

/-- A request that the database refused, and what it was about. -/
structure Rejection where
  subject : String
  error : StoreError
deriving Repr, DecidableEq, Inhabited

def Rejection.message (rejection : Rejection) : String :=
  rejection.subject ++ ": " ++ rejection.error.message

structure StageReport where
  stage : StageName
  created : Nat := 0
  updated : Nat := 0
  rejections : List Rejection := []
  skipped : Nat := 0
  /-- Why the stage ended early, if it did. -/
  aborted : Option Failure := none
deriving Repr, DecidableEq, Inhabited

structure Inventory where
  groups : NameIndex := .empty
  permissions : NameIndex := .empty
  manufacturers : NameIndex := .empty
  roles : NameIndex := .empty
  deviceTypes : NameIndex := .empty
  sites : NameIndex := .empty
deriving DecidableEq, Inhabited

structure Report where
  stages : List StageReport
  inventory : Inventory
deriving DecidableEq, Inhabited

namespace Report

def totalCreated (report : Report) : Nat :=
  report.stages.foldl (fun total stage => total + stage.created) 0

def abortedStages (report : Report) : List StageName :=
  (report.stages.filter (·.aborted.isSome)).map (·.stage)

end Report

end AssetSeed
