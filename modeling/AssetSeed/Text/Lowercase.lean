import AssetSeed.Text.Lowercase.Table

/-!
# Lowercase

The lowercase of a text, character by character, except that a capital sigma at the end of a word
takes its final form and a dotted capital I keeps its dot as a combining mark.

## Main definitions

* `lowerChar` — the lowercase of one character.
* `lower` — the lowercase of a text.
-/

namespace AssetSeed.Text

namespace Lowercase

def shiftBy (c : Char) (shift : Int) : Char :=
  Char.ofNat (c.toNat + shift).toNat

def lowerChar (c : Char) : List Char :=
  if c = 'İ' then
    ['i', '\u0307']
  else if c.toNat < 128 then
    [if 'A' ≤ c && c ≤ 'Z' then shiftBy c 32 else c]
  else
    match lowerRuns.find? (·.contains c.toNat) with
    | some run => [shiftBy c run.shift]
    | none => [c]

/-- Whether the first character of `cs` that case does not ignore has a case. -/
def casedFirst (cs : List Char) : Bool :=
  match cs.dropWhile caseIgnorable.contains with
  | [] => false
  | c :: _ => cased.contains c

/-- Whether a sigma between `before` (nearest character first) and `after` ends a word. -/
def endsWord (before after : List Char) : Bool :=
  casedFirst before && !casedFirst after

def lowerAfter (before : List Char) : List Char → List Char
  | [] => []
  | c :: rest =>
    (if c = 'Σ' then [if endsWord before rest then 'ς' else 'σ'] else lowerChar c)
      ++ lowerAfter (c :: before) rest

end Lowercase

def lower (s : List Char) : List Char :=
  Lowercase.lowerAfter [] s

end AssetSeed.Text
