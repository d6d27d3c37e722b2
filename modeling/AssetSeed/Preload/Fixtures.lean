import AssetSeed.Failure
import AssetSeed.Files.Copy

/-!
# Fixtures

Fixtures are files that the database is filled from. They are staged in a copy, so that files which
are made for the first site of the catalog do not get among the others. The copy is in a temporary
directory, the path of which is given by the host.

## Main definitions

* `Fixtures.fillKind` — the file of a kind, made from the defaults of that kind.
* `Fixtures.fill` — the same for all kinds that have defaults.
* `Fixtures.staged` — a copy of a directory, filled, and the disk with it.
* `Fixtures.stage` — the tree of that copy.
-/

namespace AssetSeed.Fixtures

/-- What stands for the site in defaults. -/
def siteToken : String :=
  "NETBOX_DEFAULT_SITE"

/-- The kinds that have defaults. -/
def kinds : List String :=
  ["vrfs", "prefixes"]

def defaultsName (kind : String) : String :=
  kind ++ "_defaults.yml"

def fileName (kind : String) : String :=
  kind ++ ".yml"

/-- Defaults with a site in them. -/
def forSite (site text : String) : String :=
  String.ofList (Text.replace siteToken.toList site.toList text.toList)

/-- Makes the file of a kind from its defaults, unless there is something in its place already. It
is left out if the defaults are no text, or if it cannot be written. -/
def fillKind (dir : Path) (site : String) (disk : Disk) (kind : String) : Disk :=
  let defaults := dir.join (defaultsName kind)
  let target := dir.join (fileName kind)
  if !disk.isFile defaults || disk.exists? target then disk
  else
    let filled : Except FileError Disk := do
      disk.write target (Text.utf8Encode (forSite site (← disk.readText defaults)))
    filled.toOption.getD disk

/-- Fills in the site, if there is one and that is wanted. -/
def fill (dir : Path) (site? : Option String) (wanted : Bool) (disk : Disk) : Disk :=
  match site?, wanted with
  | some site, true => kinds.foldl (fillKind dir site) disk
  | _, _ => disk

/-- Copies a directory into a new temporary one, and fills in the site there. Tells the path of the
copy and the disk with it. -/
def staged (disk : Disk) (source : Path) (site? : Option String) (wanted : Bool) :
    Except Failure (Path × Disk) := do
  let (dir, made) ← Failure.ofFile "Failed to create staging directory" disk.makeScratch
  let copied ← Failure.ofFile ("Failed to copy fixtures from " ++ source.text)
    (made.copyDir source dir)
  return (dir, fill dir site? wanted copied)

/-- The tree of the copy, filled. -/
def stage (disk : Disk) (source : Path) (site? : Option String) (wanted : Bool) :
    Except Failure FileTree := do
  let (dir, copied) ← staged disk source site? wanted
  Failure.ofFile ("Failed to copy fixtures from " ++ source.text) (copied.find dir)

end AssetSeed.Fixtures
