import AssetSeed.CommandLine.Call
import AssetSeed.Environment.File
import AssetSeed.Seed.Run

/-!
# The program

## Main definitions

* `Setting` — what the program finds when it is called.
* `Program.Refusal` — why nothing is done.
* `Program.parse` — the call that is made in a setting.
* `Program.sources` — the files that a task names.
* `Program.run` — the call carried out as a conversation with a server and a host, up to the exit
  code.
-/

namespace AssetSeed

structure Setting where
  arguments : List String
  env : Environment
  /-- The time that a recipe is stamped with. -/
  buildTime : String
  palette : Palette
  /-- How often a database that is waited for may fail to answer. -/
  patience : Nat

namespace Program

open CommandLine Seed

def succeeded : Nat :=
  0

/-- The exit code of a call that was understood and could not be carried out. -/
def failed : Nat :=
  1

/-- The exit code of a call that ended before its arguments were read. -/
def stopped : Nat :=
  101

inductive Refusal where
  /-- The file of variables gives a value that no variable can have. -/
  | unsettable
  | arguments (error : ArgumentError)

def Refusal.exitCode : Refusal → Nat
  | unsettable => stopped
  | arguments error => error.exitCode

/-- The call that is made. A file of variables near the current directory adds to the
environment. -/
def parse (setting : Setting) (disk : Disk) : Except Refusal Call :=
  match setting.env.ofDisk? disk with
  | none => .error .unsettable
  | some env => (Call.read env setting.arguments).mapError .arguments

/-- The files that a task names. -/
def sources : Task → List Path
  | .recipe order => [order.template]
  | .seed config => config.networkMap.toList ++ config.backup.toList
    ++ (config.backup.map Snapshot.mediaArchive).toList
    ++ [config.install.venvPython, config.install.manageScript, config.install.superuserScript]

/-- The directories that a task writes to. -/
def targets : Task → List Path
  | .recipe order => [order.outputDir]
  | .seed config => [config.install.mediaDir]

/-- Renders a recipe onto the disk of the host. -/
def render (setting : Setting) (order : RecipeOrder) : HostDialogue Nat := do
  let sources := Recipe.Sources.ofDir order.malcolmDir setting.buildTime
  match Recipe.generate (← Host.disk) order.variant sources order.template order.outputDir with
  | .ok (_, disk) =>
    Host.save disk
    return succeeded
  | .error _ => return failed

/-- Carries a task out. A restore that was asked for and failed is no failure of the program. -/
def perform (setting : Setting) : Task → Dialogue HttpAndHost Nat
  | .recipe order => (render setting order).toSecond
  | .seed config => do
    match ← Seed.run config setting.palette setting.patience with
    | .ok _ => return succeeded
    | .error _ => return failed

/-- The whole run, up to the exit code. -/
def run (setting : Setting) : Dialogue HttpAndHost Nat := do
  let disk ← (Host.disk).toSecond
  match parse setting disk with
  | .ok call => perform setting call.task
  | .error e => return e.exitCode

end Program

end AssetSeed
