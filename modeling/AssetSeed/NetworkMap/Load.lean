import AssetSeed.Failure
import AssetSeed.Files.Disk
import AssetSeed.NetworkMap

/-!
# Network maps on a disk

## Main definitions

* `NetworkMap.load` — the map in a file, if there is a file.
-/

namespace AssetSeed.NetworkMap

def notJson : String :=
  "network map is not valid JSON"

/-- The map in the file of a path. No file is no map; a file that holds none is a failure. -/
def load (disk : Disk) (path : Path) : Except Failure (Option NetworkMap) :=
  if disk.isFile path then
    match disk.readText path with
    | .error e => .error { cause := .file e, contexts := ["reading network map " ++ path.text] }
    | .ok text =>
      match ofText? text with
      | some map => .ok (some map)
      | none => .error {
          cause := .json "not a JSON document"
          contexts := ["parsing network map " ++ path.text, notJson] }
  else .ok none

end AssetSeed.NetworkMap
