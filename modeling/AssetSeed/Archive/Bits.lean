import AssetSeed.Text.Utf8

/-!
# Bits

Bytes as bits, the lowest bit of each byte first, and a reader that takes bits off the front.

## Main definitions

* `bitsOf` — the bits of bytes.
* `BitReader` — computations that read bits, and stop where there are none or none that make sense.
* `BitReader.number` — a number, its lowest bit first.
* `littleEndian` — the number that bytes write, the lowest byte first.
-/

namespace AssetSeed.Archive

def bitsOfByte (b : UInt8) : List Bool :=
  (List.range 8).map b.toNat.testBit

def bitsOf (bytes : Bytes) : List Bool :=
  bytes.flatMap bitsOfByte

def littleEndian (bytes : Bytes) : Nat :=
  bytes.foldr (fun b n => b.toNat + 256 * n) 0

/-- Why reading stopped. -/
inductive Damage where
  /-- The bits came to an end. -/
  | truncated
  /-- The bits are none that could have been written. -/
  | corrupt
deriving Repr, DecidableEq

abbrev BitReader := StateT (List Bool) (Except Damage)

namespace BitReader

def bit : BitReader Bool := fun
  | [] => .error .truncated
  | b :: rest => .ok (b, rest)

def number : (width : Nat) → BitReader Nat
  | 0 => pure 0
  | width + 1 => do
    let low ← bit
    return low.toNat + 2 * (← number width)

/-- Goes on to the next byte, where the bits are whole bytes together with those read before. -/
def align : BitReader Unit := fun bits =>
  .ok ((), bits.drop (bits.length % 8))

end BitReader

end AssetSeed.Archive
