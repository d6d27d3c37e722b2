import AssetSeed.Host.Install
import AssetSeed.Host.Protocol
import AssetSeed.Preload.Fixtures

/-!
# Loaders

Two programs of the installation fill the database from files. Each is run if what it needs is
there.

## Main definitions

* `Preload.loadInitializers` — stages fixtures and has them loaded.
* `Preload.importLibrary` — imports the library of device types.
-/

namespace AssetSeed.Preload

open Fixtures

def initializerCommand (install : Install) (staged : Path) : Command where
  program := install.venvPython.text
  args := [Install.manageName, "load_initializer_data", "--path", staged.text]
  dir := some install.manageDir

/-- Loads the fixtures of a directory, and tells whether there was something to run. The staged copy
is there for as long as the loader runs. -/
def loadInitializers (install : Install) (fixtures : Path) (site? : Option String)
    (fillPrefixes : Bool) : HostDialogue (Except Failure Bool) := do
  let disk ← Host.disk
  if !install.hasManage disk || !disk.isDir fixtures then return .ok false
  match Fixtures.staged disk fixtures site? fillPrefixes with
  | .error failure => return .error failure
  | .ok (dir, copied) => do
    Host.save copied
    let answer ← Host.run (initializerCommand install dir)
    let disk ← Host.disk
    Host.save (disk.discard dir)
    return answer.map fun _ => true

def importCommand (install : Install) (library : Path) (url : String) (token : Option String) :
    Command where
  program := install.venvPython.text
  args := ["nb-dt-import.py"]
  env := [("NETBOX_URL", url), ("NETBOX_TOKEN", token.getD ""), ("REPO_URL", "local")]
  dir := some library

/-- Imports the library of a directory, and tells whether there was something to run. -/
def importLibrary (install : Install) (library : Path) (url : String) (token : Option String) :
    HostDialogue (Except Failure Bool) := do
  let disk ← Host.disk
  if !disk.isDir library then return .ok false
  let answer ← Host.run (importCommand install library url token)
  return answer.map fun _ => true

end AssetSeed.Preload
