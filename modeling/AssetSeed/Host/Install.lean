import AssetSeed.Files.Disk

/-!
# An installation of the asset database

## Main definitions

* `Install` — where the database is installed.
* `Install.hasManage` — whether its management tool can be run.
-/

namespace AssetSeed

structure Install where
  dir : Path
  /-- The script that creates the administrator. -/
  superuserScript : Path
deriving Repr, DecidableEq, Inhabited

namespace Install

def manageName : String :=
  "manage.py"

/-- The interpreter that the management tool runs in. -/
def venvPython (install : Install) : Path :=
  ((install.dir.join "venv").join "bin").join "python"

def manageDir (install : Install) : Path :=
  install.dir.join "netbox"

def manageScript (install : Install) : Path :=
  install.manageDir.join manageName

def mediaDir (install : Install) : Path :=
  install.manageDir.join "media"

def hasManage (install : Install) (disk : Disk) : Bool :=
  disk.isFile install.venvPython && disk.isFile install.manageScript

end Install

end AssetSeed
