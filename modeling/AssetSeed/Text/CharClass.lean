/-!
# Character classes

A class of characters is a list of ranges of code points.

## Main definitions

* `CharClass.contains` — membership of a character.
* `isBlank` — white space.
* `isDigit`, `isHexDigit`, `isAlphanumeric` — the ASCII classes.
-/

namespace AssetSeed.Text

/-- The characters whose code point lies in one of the ranges, both ends included. -/
structure CharClass where
  ranges : List (Nat × Nat)
deriving Repr, DecidableEq

namespace CharClass

def contains (cls : CharClass) (c : Char) : Bool :=
  cls.ranges.any fun r => r.1 ≤ c.toNat && c.toNat ≤ r.2

end CharClass

/-- White space: what may be trimmed from either end of a text. -/
def blanks : CharClass := ⟨[
  (0x9, 0xd), (0x20, 0x20), (0x85, 0x85), (0xa0, 0xa0), (0x1680, 0x1680), (0x2000, 0x200a),
  (0x2028, 0x2029), (0x202f, 0x202f), (0x205f, 0x205f), (0x3000, 0x3000)]⟩

def isBlank (c : Char) : Bool :=
  blanks.contains c

def isDigit (c : Char) : Bool :=
  '0' ≤ c && c ≤ '9'

def isHexDigit (c : Char) : Bool :=
  isDigit c || ('a' ≤ c && c ≤ 'f') || ('A' ≤ c && c ≤ 'F')

def isAlphanumeric (c : Char) : Bool :=
  isDigit c || ('a' ≤ c && c ≤ 'z') || ('A' ≤ c && c ≤ 'Z')

end AssetSeed.Text
