import AssetSeed.Address.IPv6

/-!
# IP addresses of either family

## Main definitions

* `IpAddress.ofText?` — the address that a text writes.
* `IpAddress.text` — the written form.
* `IpAddress.width`, `IpAddress.toNat` — the number of bits and the bits as a number.
* `IpAddress.hostKey` — the address as the network of that one address.
-/

namespace AssetSeed

inductive IpAddress where
  | v4 (address : IPv4)
  | v6 (address : IPv6)
deriving Repr, DecidableEq

namespace IpAddress

def ofText? (s : List Char) : Option IpAddress :=
  match IPv4.ofText? s with
  | some address => some (.v4 address)
  | none => (IPv6.ofText? s).map .v6

def text : IpAddress → List Char
  | .v4 address => address.text
  | .v6 address => address.text

def width : IpAddress → Nat
  | .v4 _ => 32
  | .v6 _ => 128

def toNat : IpAddress → Nat
  | .v4 address => address.toNat
  | .v6 address => address.toNat

/-- The key under which the asset database holds the address of a host. -/
def hostKey (x : IpAddress) : List Char :=
  x.text ++ ['/'] ++ Nat.toDigits 10 x.width

end IpAddress

end AssetSeed
