import AssetSeed.Text.Lowercase
import AssetSeed.Text.Numeral
import AssetSeed.Text.Pieces

/-!
# MAC addresses

Six bytes, each as two hexadecimal digits, with a colon or a hyphen between them.

## Main definitions

* `isMac` — whether a text is a MAC address.
* `normalizeMac` — lowercase digits with colons between the bytes.
-/

namespace AssetSeed.Address

open Text

def isLowerHexDigit (c : Char) : Bool :=
  isDigit c || ('a' ≤ c && c ≤ 'f')

/-- Pairs of lowercase hexadecimal digits: `more` of them followed by a separator, and a last
one. -/
def isHexPairs : (more : Nat) → List Char → Bool
  | 0, [x, y] => isLowerHexDigit x && isLowerHexDigit y
  | more + 1, x :: y :: sep :: rest =>
    isLowerHexDigit x && isLowerHexDigit y && (sep = ':' || sep = '-') && isHexPairs more rest
  | _, _ => false

def isMac (s : List Char) : Bool :=
  isHexPairs 5 (lower s)

/-- Characters two by two. -/
def inPairs : List Char → List (List Char)
  | x :: y :: rest => [x, y] :: inPairs rest
  | [x] => [[x]]
  | [] => []

/-- The bytes of a text with twelve hexadecimal digits in it, colons between them; any other text
only in lowercase. -/
def normalizeMac (s : List Char) : List Char :=
  let digits := s.filter isHexDigit
  if digits.length = 12 then
    lower (joinWith [':'] (inPairs digits))
  else
    lower s

end AssetSeed.Address
