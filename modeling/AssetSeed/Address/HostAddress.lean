import AssetSeed.Address.IpAddress
import AssetSeed.Address.Mac

/-!
# Addresses of hosts

## Main definitions

* `HostAddress.classify` — what kind of address a text is. An IP address wins over a MAC address.
* `HostAddress.hostKey?` — the key of an IP address.
-/

namespace AssetSeed

inductive HostAddress where
  | ip (address : IpAddress)
  | mac (text : String)
  | unrecognized (text : String)
deriving Repr, DecidableEq

namespace HostAddress

def classify (raw : String) : HostAddress :=
  match IpAddress.ofText? raw.toList with
  | some address => .ip address
  | none =>
    if Address.isMac raw.toList then .mac (String.ofList (Address.normalizeMac raw.toList))
    else .unrecognized raw

def ip? : HostAddress → Option IpAddress
  | .ip address => some address
  | _ => none

def hostKey? (address : HostAddress) : Option String :=
  address.ip?.map fun ip => String.ofList ip.hostKey

/-- The address as text, an IP address in its canonical form. -/
def value : HostAddress → String
  | .ip address => String.ofList address.text
  | .mac text => text
  | .unrecognized text => text

end HostAddress

end AssetSeed
