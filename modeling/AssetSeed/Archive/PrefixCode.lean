import AssetSeed.Archive.Bits

/-!
# Prefix codes

A code in which no word is the beginning of another one. It is given by the lengths of the words:
shorter words come before longer ones, and words of one length are in the order of their symbols.

## Main definitions

* `PrefixCode.ofLengths` — the code of a list of lengths.
* `PrefixCode.ofLengths?` — the same, unless the lengths are those of no code.
* `PrefixCode.symbol` — reads the word of a symbol.
-/

namespace AssetSeed.Archive

structure PrefixCode where
  /-- The symbols of each length, from one on. -/
  symbols : List (List Nat)
deriving Repr, DecidableEq

namespace PrefixCode

def maxLength : Nat :=
  15

/-- The share of all words that the words of these lengths are the beginnings of, in words of the
greatest length. -/
def weight (lengths : List Nat) : Nat :=
  (lengths.filter (0 < ·)).foldl (fun sum length => sum + 1 <<< (maxLength - length)) 0

/-- The places in a list at which a value stands, from `start` on. -/
def placesOf (value : Nat) : (start : Nat) → List Nat → List Nat
  | _, [] => []
  | start, x :: rest =>
    if x = value then start :: placesOf value (start + 1) rest else placesOf value (start + 1) rest

/-- The code in which each symbol has the length at its place, and none if that is zero. -/
def ofLengths (lengths : List Nat) : PrefixCode :=
  let longest := lengths.foldl max 0
  ⟨(List.range longest).map fun i => placesOf (i + 1) 0 lengths⟩

/-- Whether words of these lengths leave nothing over. -/
def isComplete (lengths : List Nat) : Bool :=
  weight lengths = 1 <<< maxLength

/-- Whether there are no words of these lengths, or only one, of one bit. -/
def isTrivial (lengths : List Nat) : Bool :=
  lengths.filter (0 < ·) = [] || lengths.filter (0 < ·) = [1]

/-- The code of lengths that are complete or trivial. -/
def ofLengths? (lengths : List Nat) : Option PrefixCode :=
  if isComplete lengths || isTrivial lengths then some (ofLengths lengths) else none

/-- Reads on in a word. `first` is the first word of the length to come, `word` what has been read,
both as numbers. -/
def symbolFrom : (first word : Nat) → List (List Nat) → BitReader Nat
  | _, _, [] => throw .corrupt
  | first, word, symbols :: rest => do
    let b ← BitReader.bit
    let first := 2 * first
    let word := 2 * word + b.toNat
    match symbols[word - first]? with
    | some symbol => return symbol
    | none => symbolFrom (first + symbols.length) word rest

def symbol (code : PrefixCode) : BitReader Nat :=
  symbolFrom 0 0 code.symbols

end PrefixCode

end AssetSeed.Archive
