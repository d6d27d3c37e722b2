import AssetSeed.Text.CharClass

/-!
# Punycode

A text in ASCII letters, digits and hyphens. Its ASCII characters come first; behind the last hyphen
stand numbers, each of which says which character comes next in the order of code points and where
it is put.

## Main definitions

* `Punycode.decode?` — the text that a punycode stands for.
-/

namespace AssetSeed.HostName.Punycode

open Text

/-- A digit of base 36: the letters in either case, then the ten digits. -/
def digit? (c : Char) : Option Nat :=
  if 'a' ≤ c && c ≤ 'z' then some (c.toNat - 'a'.toNat)
  else if 'A' ≤ c && c ≤ 'Z' then some (c.toNat - 'A'.toNat)
  else if isDigit c then some (c.toNat - '0'.toNat + 26)
  else none

/-- A number ends with the first digit below this bound, which grows with the place `k` of the
digit. -/
def threshold (k bias : Nat) : Nat :=
  min 26 (max 1 (k - bias))

/-- How often a number is divided by 35 before it is at most 455, and what is left of it. -/
def scaled (delta : Nat) : Nat × Nat :=
  if delta ≤ 455 then (0, delta)
  else
    let (times, rest) := scaled (delta / 35)
    (times + 1, rest)
termination_by delta
decreasing_by omega

/-- The bias for the next number, after one that moved the place by `delta`. -/
def nextBias (delta count : Nat) (first : Bool) : Nat :=
  let shrunk := if first then delta / 700 else delta / 2
  let (times, rest) := scaled (shrunk + shrunk / count)
  36 * times + 36 * rest / (rest + 38)

/-- A text that is being put together. `digits` is the number of digits read of the number at
hand, and `weight` what the next of them counts. -/
structure Draft where
  letters : List Char
  code : Nat := 128
  place : Nat := 0
  start : Nat := 0
  bias : Nat := 72
  digits : Nat := 0
  weight : Nat := 1
deriving Repr, DecidableEq

/-- The character that the number just read stands for, put where it belongs. -/
def Draft.inserted? (d : Draft) : Option Draft :=
  let count := d.letters.length + 1
  let code := d.code + d.place / count
  let place := d.place % count
  if code.isValidChar then
    some {
      letters := d.letters.take place ++ [Char.ofNat code] ++ d.letters.drop place
      code := code
      place := place + 1
      start := place + 1
      bias := nextBias (d.place - d.start) count (d.start = 0) }
  else
    none

/-- The draft after one more digit of a number. -/
def Draft.step? (d : Draft) (c : Char) : Option Draft := do
  let value ← digit? c
  let bound := threshold (36 * (d.digits + 1)) d.bias
  let moved := { d with place := d.place + value * d.weight }
  if value < bound then
    moved.inserted?
  else
    some { moved with digits := d.digits + 1, weight := d.weight * (36 - bound) }

/-- The characters before the last hyphen, and the numbers behind it. A hyphen with nothing before
it is no separator. -/
def parts (s : List Char) : List Char × List Char :=
  let numbers := (s.reverse.takeWhile (· ≠ '-')).reverse
  let basic := s.take (s.length - numbers.length - 1)
  (basic, if basic.isEmpty then s else numbers)

def decode? (s : List Char) : Option (List Char) := do
  let (basic, numbers) := parts s
  let draft ← numbers.foldlM Draft.step? { letters := basic }
  if draft.digits = 0 then some draft.letters else none

end AssetSeed.HostName.Punycode
