import AssetSeed.Catalog
import AssetSeed.Host.Install
import AssetSeed.Restore.Run

/-!
# What a seeding is told

## Main definitions

* `SeedConfig` — the database, what it is to hold, and where the rest is found.
-/

namespace AssetSeed

structure SeedConfig where
  url : String
  token : Option String
  /-- Whether to wait until the database answers. -/
  wait : Bool
  retrySeconds : Nat
  timeoutSeconds : Nat
  catalog : Catalog
  networkMap : Option Path
  install : Install
  preloadDir : Path
  libraryDir : Path
  /-- Whether fixtures for private prefixes are made. -/
  preloadPrefixes : Bool
  /-- The snapshot that was asked for. -/
  backup : Option Path
  postgres : Postgres
deriving Repr, DecidableEq, Inhabited

/-- Whether a snapshot was asked for, be it there or not. The empty path asks for none. -/
def SeedConfig.snapshotRequested (config : SeedConfig) : Bool :=
  config.backup.any fun path => !path.text.isEmpty

end AssetSeed
