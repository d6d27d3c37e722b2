import AssetSeed.Text.Numeral
import AssetSeed.Text.Pieces

/-!
# IPv4 addresses

Four numbers from 0 to 255, written in decimal without leading zeros and with points between them.

## Main definitions

* `IPv4.read?` — an address at the start of a text, and what follows it.
* `IPv4.text` — the written form.
* `IPv4.toNat` — the address as one number of 32 bits.
-/

namespace AssetSeed

structure IPv4 where
  a : UInt8
  b : UInt8
  c : UInt8
  d : UInt8
deriving Repr, DecidableEq, Inhabited

namespace IPv4

open Text

/-- The digits at the start of a text, as a number below 256 without leading zeros. -/
def readOctet? (s : List Char) : Option (UInt8 × List Char) :=
  let digits := s.takeWhile isDigit
  let rest := s.dropWhile isDigit
  if digits.isEmpty || digits.length > 3 then none
  else if digits.head? = some '0' && digits.length > 1 then none
  else if decimalValue digits ≤ 255 then some (UInt8.ofNat (decimalValue digits), rest)
  else none

/-- A point and an octet after it. -/
def readNextOctet? : List Char → Option (UInt8 × List Char)
  | '.' :: rest => readOctet? rest
  | _ => none

def read? (s : List Char) : Option (IPv4 × List Char) := do
  let (a, s) ← readOctet? s
  let (b, s) ← readNextOctet? s
  let (c, s) ← readNextOctet? s
  let (d, s) ← readNextOctet? s
  return (⟨a, b, c, d⟩, s)

/-- The address that the whole text writes. -/
def ofText? (s : List Char) : Option IPv4 :=
  match read? s with
  | some (address, []) => some address
  | _ => none

def octetText (n : UInt8) : List Char :=
  Nat.toDigits 10 n.toNat

def text (x : IPv4) : List Char :=
  joinWith ['.'] [octetText x.a, octetText x.b, octetText x.c, octetText x.d]

def toNat (x : IPv4) : Nat :=
  ((x.a.toNat * 256 + x.b.toNat) * 256 + x.c.toNat) * 256 + x.d.toNat

end IPv4

end AssetSeed
