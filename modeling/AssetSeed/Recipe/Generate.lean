import AssetSeed.Failure
import AssetSeed.Files.Disk
import AssetSeed.Recipe.Template

/-!
# Recipes on a disk

## Main definitions

* `Recipe.generate` — renders the template in a file into a file of a directory.
-/

namespace AssetSeed.Recipe

/-- The name of the template if none is given. -/
def masterName : String :=
  "raspi_master.yaml"

/-- Renders a template into the directory, and tells the path of the recipe. -/
def generate (disk : Disk) (variant : Variant) (sources : Sources) (template outputDir : Path) :
    Except Failure (Path × Disk) := do
  let master ← Failure.ofFile ("Failed to read " ++ template.text) (disk.readText template)
  let target := outputDir.join variant.outputName
  let content := Text.utf8Encode (render variant sources master)
  let disk ← Failure.ofFile ("Failed to write " ++ target.text) (disk.write target content)
  return (target, disk)

end AssetSeed.Recipe
