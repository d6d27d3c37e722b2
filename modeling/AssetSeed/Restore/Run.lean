import AssetSeed.Archive.Extract
import AssetSeed.Files.Prune
import AssetSeed.Host.Install
import AssetSeed.Host.Protocol
import AssetSeed.Restore.Snapshot
import AssetSeed.Restore.Step
import AssetSeed.Text.Quoted

/-!
# Restoring a snapshot

The database is replaced as a whole by commands of the host. A step that fails is noted, and the
next one is taken, unless the step was vital.

## Main definitions

* `Postgres` — the database server.
* `Restore.Plan` — what is restored, and where.
* `Restore.Plan.attempt` — one step.
* `Restore.Plan.run` — all steps.
-/

namespace AssetSeed

structure Postgres where
  host : String
  db : String
  user : String
  password : String
deriving Repr, DecidableEq, Inhabited

namespace Restore

structure Plan where
  postgres : Postgres
  install : Install
  snapshot : Path
deriving Repr, DecidableEq, Inhabited

/-- A conversation with the host that may fail. -/
abbrev Work := ExceptT Failure HostDialogue

namespace Work

def ofFile {α : Type} (context : String) : Except FileError α → Work α
  | .ok value => pure value
  | .error e => throw { cause := .file e, contexts := [context] }

def disk : Work Disk :=
  ExceptT.lift Host.disk

def statusText : Option Int → String
  | none => "None"
  | some code => "Some(" ++ toString code ++ ")"

/-- Why a command that came to its end counts as failed, if it does. -/
def complaint? (needsOutput : Bool) (completion : Completion) : Option String :=
  if !completion.success then
    some ("exit status " ++ statusText completion.code ++ ": " ++ Text.quoteList completion.lines)
  else if needsOutput && !completion.hasOutput then some "no output"
  else none

/-- Runs a command that has to succeed, and has to print something if that is asked for. -/
def perform (command : Command) (needsOutput : Bool) : Work Unit := do
  let completion ← ExceptT.mk (Host.run command)
  match complaint? needsOutput completion with
  | none => return
  | some detail => throw { cause := .other detail }

end Work

namespace Plan

/-! ## Commands -/

/-- Stops or starts every program of the database but the one that prepares it. -/
def supervise (action : String) : Command where
  program := "bash"
  args := ["-c", "supervisorctl status netbox:* | grep -v :initialization | "
    ++ "awk '\x7b print $1 \x7d' | xargs -r -L 1 -P 4 supervisorctl " ++ action]

/-- A program of the database server. The password is not among its arguments. -/
def postgresCommand (plan : Plan) (program : String) (args : List String) : Command where
  program := program
  args := ["-h", plan.postgres.host, "-U", plan.postgres.user] ++ args
  env := [("PGPASSWORD", plan.postgres.password)]

def dropCommand (plan : Plan) : Command :=
  plan.postgresCommand "dropdb" ["-f", plan.postgres.db]

def createCommand (plan : Plan) : Command :=
  plan.postgresCommand "createdb" [plan.postgres.db]

def statementCommand (plan : Plan) (statement : String) : Command :=
  plan.postgresCommand "psql" ["-d", plan.postgres.db, "-c", statement]

def loadCommand (plan : Plan) (dump : Bytes) : Command :=
  { plan.postgresCommand "psql" ["-d", plan.postgres.db] with input := some dump }

def manageCommand (plan : Plan) (args : List String) (input : Option Bytes) : Command where
  program := plan.install.venvPython.text
  args := Install.manageName :: args
  dir := some plan.install.manageDir
  input := input

def grantStatement (plan : Plan) : String :=
  "GRANT ALL PRIVILEGES ON DATABASE " ++ plan.postgres.db ++ " TO " ++ plan.postgres.user

/-- Copies the name of each VRF into its prefixes that have no description. -/
def describeStatement : String :=
  "UPDATE ipam_prefix SET description = (SELECT name from ipam_vrf WHERE id = ipam_prefix.vrf_id) "
    ++ "WHERE ((description = '') IS NOT FALSE) AND (vrf_id > 0)"

def stripStatement : String :=
  "TRUNCATE auth_user CASCADE"

/-! ## Steps -/

/-- The content of the snapshot, decompressed if need be. -/
def readDump (plan : Plan) : Work Bytes := do
  let path := plan.snapshot.text
  let raw ← Work.ofFile ("Failed to read " ++ path) ((← Work.disk).read plan.snapshot)
  if Archive.Gzip.isCompressed raw then
    let content := Archive.Gzip.decode raw
    if content.sound then return content.bytes
    else
      Work.ofFile ("Failed to decompress " ++ path) (.error (.invalidContent "corrupt data"))
  else return raw

/-- Puts the media of the snapshot in place, if there are any, and a place for them. -/
def restoreMedia (plan : Plan) : Work Status := do
  let archive := Snapshot.mediaArchive plan.snapshot
  let target := plan.install.mediaDir
  let disk ← Work.disk
  if !disk.isFile archive || !disk.isDir target then return .skipped
  let (_, disk) ← Work.ofFile ("Failed to prune " ++ target.text) (disk.pruneDir target)
  ExceptT.lift (Host.save disk)
  let raw ← Work.ofFile ("Failed to open " ++ archive.text) (disk.read archive)
  let context := "Failed to extract " ++ archive.text
  let (failure, disk) ← Work.ofFile context (disk.extractInto raw target)
  ExceptT.lift (Host.save disk)
  match failure with
  | none => return .succeeded
  | some e => Work.ofFile context (.error e)

def work (plan : Plan) : Step → Work Status
  | .stopDependents => do Work.perform (supervise "stop") false; return .succeeded
  | .dropDatabase => do Work.perform plan.dropCommand false; return .succeeded
  | .createDatabase => do Work.perform plan.createCommand false; return .succeeded
  | .grantPrivileges => do
    Work.perform (plan.statementCommand plan.grantStatement) false
    return .succeeded
  | .loadSnapshot => do
    Work.perform (plan.loadCommand (← plan.readDump)) true
    return .succeeded
  | .describePrefixes => do
    Work.perform (plan.statementCommand describeStatement) false
    return .succeeded
  | .stripSecrets => do
    Work.perform (plan.statementCommand stripStatement) false
    return .succeeded
  | .startDependents => do Work.perform (supervise "start") false; return .succeeded
  | .runMigrations => do
    Work.perform (plan.manageCommand ["migrate"] none) true
    return .succeeded
  | .recreateAdmin => do
    let script := plan.install.superuserScript
    let content ← Work.ofFile ("Failed to read " ++ script.text) ((← Work.disk).read script)
    Work.perform (plan.manageCommand ["shell", "--interface", "python"] (some content)) true
    return .succeeded
  | .restoreMedia => plan.restoreMedia

def attempt (plan : Plan) (step : Step) : HostDialogue Status := do
  match ← ExceptT.run (plan.work step) with
  | .ok status => return status
  | .error failure => return .failed failure

/-- Takes steps one after the other, up to a vital one that fails. -/
def takeSteps (plan : Plan) : List Step → HostDialogue (List (Step × Status) × Option Step)
  | [] => return ([], none)
  | step :: rest => do
    let status ← plan.attempt step
    if status.isFailed && step.isVital then return ([(step, status)], some step)
    else
      let (steps, abortedAt) ← plan.takeSteps rest
      return ((step, status) :: steps, abortedAt)

def run (plan : Plan) : HostDialogue Outcome := do
  let (steps, abortedAt) ← plan.takeSteps Step.all
  return { snapshot := plan.snapshot, steps, abortedAt }

end Plan

end Restore

end AssetSeed
