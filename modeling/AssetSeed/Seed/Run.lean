import AssetSeed.Http.Client
import AssetSeed.NetworkMap.Load
import AssetSeed.Preload.Load
import AssetSeed.Reconcile.Run
import AssetSeed.Seed.Config

/-!
# Seeding

A snapshot that can be restored replaces everything else. Without one the catalog is reconciled and
the loaders are run.

## Main definitions

* `Seed.seedStore` — reconciles a database and runs the loaders.
* `SeedOutcome` — what came of a seeding.
* `Seed.run` — a seeding as a conversation with a server and a host.
-/

namespace AssetSeed

inductive SeedOutcome where
  /-- A snapshot was loaded. -/
  | restored (outcome : Restore.Outcome)
  /-- A snapshot was asked for and not loaded, or not found. -/
  | requested (outcome : Option Restore.Outcome)
  | reconciled (report : Report)

namespace Seed

/-- The parties of a seeding: a database and a host. -/
@[reducible] def StoreAndHost : Protocol :=
  StoreProtocol.both HostProtocol

@[reducible] def HttpAndHost : Protocol :=
  HttpProtocol.both HostProtocol

def unreachable (config : SeedConfig) (error : StoreError) : Failure :=
  (Failure.ofStore error).within ("NetBox at " ++ config.url ++ " is not reachable")

/-- The loaders, whatever comes of each. -/
def load (config : SeedConfig) : HostDialogue Unit := do
  let _ ← Preload.loadInitializers config.install config.preloadDir config.catalog.defaultSite?
    config.preloadPrefixes
  let _ ← Preload.importLibrary config.install config.libraryDir config.url config.token
  return

/-- Reconciles a database that answers, and runs the loaders. A database that is waited for may fail
to answer `patience` times. -/
def seedStore (config : SeedConfig) (palette : Palette) (patience : Nat) :
    Dialogue StoreAndHost (Except Failure Report) := do
  match ← (Reconcile.waitUntilReady config.wait patience).toFirst with
  | .error e => return .error (unreachable config e)
  | .ok () => do
    let disk ← Host.disk.toSecond
    let source? := config.networkMap.map (NetworkMap.load disk)
    let report ← (Reconcile.run config.catalog source? palette).toFirst
    (load config).toSecond
    return .ok report

/-- Restores the snapshot, if there is one. -/
def restoreSnapshot (config : SeedConfig) : HostDialogue (Option Restore.Outcome) := do
  let disk ← Host.disk
  match Snapshot.select? disk config.backup config.preloadDir with
  | none => return none
  | some snapshot =>
    let plan : Restore.Plan := { postgres := config.postgres, install := config.install, snapshot }
    return some (← plan.run)

/-- What a restore settles; `none` if the database has still to be seeded. -/
def settle (config : SeedConfig) (outcome? : Option Restore.Outcome) : Option SeedOutcome :=
  match outcome? with
  | some outcome =>
    if outcome.succeeded then some (.restored outcome)
    else if config.snapshotRequested then some (.requested (some outcome))
    else none
  | none => if config.snapshotRequested then some (.requested none) else none

/-- A request to the database as a conversation over HTTP; the host is asked as it is. -/
def overHttp (client : StoreClient) :
    (question : StoreAndHost.Question) → Dialogue HttpAndHost (StoreAndHost.Answer question)
  | .inl request => (client.answer request).toFirst
  | .inr request => (Dialogue.call (P := HostProtocol) request).toSecond

/-- The number of pages that a listing may have. -/
def maxPages : Nat :=
  1000000

def run (config : SeedConfig) (palette : Palette) (patience : Nat) :
    Dialogue HttpAndHost (Except Failure SeedOutcome) := do
  let outcome? ← (restoreSnapshot config).toSecond
  match settle config outcome? with
  | some settled => return .ok settled
  | none => do
    let client := StoreClient.ofUrl config.url config.token maxPages
    let report ← (seedStore config palette patience).through (overHttp client)
    return report.map .reconciled

end Seed

end AssetSeed
