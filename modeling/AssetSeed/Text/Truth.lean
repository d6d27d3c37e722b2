import AssetSeed.Text.Lowercase
import AssetSeed.Text.Pieces

/-!
# Words for true and false

## Main definitions

* `truthWord` — a word as it is compared.
* `truth?` — what a word says.
-/

namespace AssetSeed.Text

/-- Neither case nor surrounding white space matters. -/
def truthWord (word : String) : String :=
  String.ofList (lower (trim word.toList))

def truth? (word : String) : Option Bool :=
  match truthWord word with
  | "yes" | "true" | "t" | "y" | "1" => some true
  | "no" | "false" | "f" | "n" | "0" => some false
  | _ => none

end AssetSeed.Text
