import AssetSeed.Failure
import AssetSeed.Files.Path

/-!
# The steps of a restore

## Main definitions

* `Restore.Step` — the steps.
* `Restore.Step.all` — the steps in the order in which they are taken.
* `Restore.Step.isVital` — whether the failure of a step ends the restore.
* `Restore.Outcome` — what came of the steps.
-/

namespace AssetSeed.Restore

inductive Step where
  | stopDependents
  | dropDatabase
  | createDatabase
  | grantPrivileges
  | loadSnapshot
  | describePrefixes
  | stripSecrets
  | startDependents
  | runMigrations
  | recreateAdmin
  | restoreMedia
deriving Repr, DecidableEq, Inhabited

namespace Step

def all : List Step :=
  [stopDependents, dropDatabase, createDatabase, grantPrivileges, loadSnapshot, describePrefixes,
    stripSecrets, startDependents, runMigrations, recreateAdmin, restoreMedia]

def name : Step → String
  | stopDependents => "stop-dependents"
  | dropDatabase => "drop-database"
  | createDatabase => "create-database"
  | grantPrivileges => "grant-privileges"
  | loadSnapshot => "load-snapshot"
  | describePrefixes => "migrate-prefix-descriptions"
  | stripSecrets => "strip-secrets"
  | startDependents => "start-dependents"
  | runMigrations => "run-migrations"
  | recreateAdmin => "recreate-admin"
  | restoreMedia => "restore-media"

/-- Without a database, or without its content, there is nothing to go on with. -/
def isVital : Step → Bool
  | createDatabase | loadSnapshot => true
  | _ => false

end Step

inductive Status where
  | succeeded
  | failed (failure : Failure)
  /-- There was nothing to do. -/
  | skipped
deriving Repr, DecidableEq, Inhabited

def Status.isFailed : Status → Bool
  | failed _ => true
  | _ => false

structure Outcome where
  snapshot : Path
  steps : List (Step × Status)
  /-- The step whose failure ended the restore. -/
  abortedAt : Option Step
deriving Repr, DecidableEq, Inhabited

namespace Outcome

def status? (outcome : Outcome) (step : Step) : Option Status :=
  (outcome.steps.find? fun entry => entry.1 = step).map (·.2)

/-- A restore has succeeded if the snapshot was loaded. -/
def succeeded (outcome : Outcome) : Bool :=
  outcome.status? .loadSnapshot = some .succeeded

end Outcome

end AssetSeed.Restore
