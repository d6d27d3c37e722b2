import AssetSeed.HostName.Direction
import AssetSeed.HostName.Joining
import AssetSeed.HostName.Punycode
import AssetSeed.HostName.Spelling
import AssetSeed.Text.Pieces

/-!
# Labels of host names

A host name is a row of labels with points between them. A label in characters outside of ASCII is
also given by its punycode behind `xn--`.

## Main definitions

* `Label.ofPiece?` — the label that a piece of a spelled host name stands for.
* `labels?` — the labels of a host name, if it is one.
-/

namespace AssetSeed.HostName

open Text

def isAscii (c : Char) : Bool :=
  c.toNat < 128

/-- ASCII characters that no host of an address holds. -/
def isForbidden (c : Char) : Bool :=
  c.toNat ≤ 32 || c.toNat = 127 || "\"#%/:<>?@[\\]^`\x7b|\x7d".toList.contains c

abbrev Label := List Char

/-- Whether no mark begins the label and every joiner in it acts on its neighbours. -/
def isComposed (label : Label) : Bool :=
  !label.head?.any isMark && joinersFit label

/-- A punycode of at least one number, for a text that is not in ASCII and stands for itself. -/
def Label.ofPunycode? (code : List Char) : Option Label :=
  if code.all isAscii && code.getLast? ≠ some '-' then
    (Punycode.decode? code).filter fun label =>
      label.any (!isAscii ·) && label.all isSettled && isComposed label
  else
    none

def Label.ofPiece? (piece : List Char) : Option Label :=
  match piece with
  | 'x' :: 'n' :: '-' :: '-' :: code => ofPunycode? code
  | _ => if isComposed piece then some piece else none

/-- The labels of a host name, if no character in it is refused. Where one label has letters from
right to left, each has to run in one direction. -/
def labels? (name : List Char) : Option (List Label) := do
  let spelled ← name.mapM spelled?
  let labels ← (split (· = '.') spelled.flatten).mapM Label.ofPiece?
  if labels.any (·.any isForbidden) || (labels.any isWrittenFromRight && !labels.all isDirected) then
    none
  else
    some labels

end AssetSeed.HostName
