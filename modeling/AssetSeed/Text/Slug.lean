import AssetSeed.Text.Lowercase
import AssetSeed.Text.Pieces

/-!
# Slugs

The short form of a name that the asset database uses in addresses: runs of lowercase ASCII
letters and digits with a single hyphen between them.

## Main definitions

* `foldAccent` — an accented Latin letter without its accent.
* `slug` — the slug of a name.
-/

namespace AssetSeed.Text

def foldAccent (c : Char) : Char :=
  match c with
  | 'à' | 'á' | 'â' | 'ã' | 'ä' | 'å' | 'ā' => 'a'
  | 'ç' | 'ć' | 'č' => 'c'
  | 'è' | 'é' | 'ê' | 'ë' | 'ē' | 'ě' => 'e'
  | 'ì' | 'í' | 'î' | 'ï' | 'ī' => 'i'
  | 'ñ' | 'ń' | 'ň' => 'n'
  | 'ò' | 'ó' | 'ô' | 'õ' | 'ö' | 'ø' | 'ō' => 'o'
  | 'ù' | 'ú' | 'û' | 'ü' | 'ū' | 'ů' => 'u'
  | 'ý' | 'ÿ' => 'y'
  | 'š' | 'ś' => 's'
  | 'ž' | 'ź' | 'ż' => 'z'
  | 'ř' => 'r'
  | 'ď' => 'd'
  | 'ť' => 't'
  | 'ł' => 'l'
  | other => other

/-- The text a slug is cut from: lowercase, and without accents on Latin letters. -/
def folded (s : List Char) : List Char :=
  (lower s).map foldAccent

/-- The maximal runs of letters and digits. -/
def words (s : List Char) : List (List Char) :=
  (split (fun c => !isAlphanumeric c) s).filter fun piece => !piece.isEmpty

def slugChars (s : List Char) : List Char :=
  joinWith ['-'] (words (folded s))

def slug (name : String) : String :=
  String.ofList (slugChars name.toList)

end AssetSeed.Text
