import AssetSeed.Address.IpAddress

/-!
# Networks

An address with a length: the leading bits that its members share. The bits after them are zero.

## Main definitions

* `Network.ofText?` — the network that a text writes: an address alone, with a length, or, for
  IPv4, with a netmask.
* `Network.text` — the written form, an address and a length.
-/

namespace AssetSeed

structure Network where
  address : IpAddress
  length : Nat
  length_le : length ≤ address.width
  /-- No bit after the first `length` bits is set. -/
  aligned : address.toNat % (1 <<< (address.width - length)) = 0
deriving DecidableEq

namespace Network

open Text

/-- The number of leading ones of a netmask, if ones are followed by zeros only. -/
def maskLength? (mask : IPv4) : Option Nat :=
  (List.range 33).find? fun length => mask.toNat = (1 <<< 32) - (1 <<< (32 - length))

/-- An address and a length, each as written, whatever bits are set. -/
def readParts? (s : List Char) : Option (IpAddress × Nat) :=
  match cut? '/' s with
  | none => (IpAddress.ofText? s).map fun address => (address, address.width)
  | some (left, right) =>
    match IpAddress.ofText? left with
    | none => none
    | some (.v4 address) =>
      match IPv4.ofText? right with
      | some mask => (maskLength? mask).map (.v4 address, ·)
      | none => (natural? 32 right).map (.v4 address, ·)
    | some (.v6 address) => (natural? 128 right).map (.v6 address, ·)

/-- The network of an address and a length, if the length fits and no bit behind it is set. -/
def ofParts? (address : IpAddress) (length : Nat) : Option Network :=
  if fits : length ≤ address.width then
    if aligned : address.toNat % (1 <<< (address.width - length)) = 0 then
      some ⟨address, length, fits, aligned⟩
    else none
  else none

/-- Reads a network, with white space around it allowed. -/
def ofText? (s : List Char) : Option Network :=
  (readParts? (trim s)).bind fun (address, length) => ofParts? address length

def text (n : Network) : List Char :=
  n.address.text ++ ['/'] ++ Nat.toDigits 10 n.length

end Network

end AssetSeed
