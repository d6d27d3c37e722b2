import AssetSeed.Record.Basic
import AssetSeed.Record.Draft

/-!
# Kinds of records

## Main definitions

* `Kind` — the kinds, in no particular order.
* `Kind.Record`, `Kind.Draft` — the records of a kind, and what one is created from.
* `Kind.id`, `Kind.key?` — the identifier of a record, and the key that tells it from others.
-/

namespace AssetSeed

inductive Kind where
  | group
  | objectType
  | permission
  | manufacturer
  | role
  | deviceType
  | site
  | ipPrefix
  | device
  | interface
  | address
deriving Repr, DecidableEq, Inhabited

namespace Kind

def all : List Kind :=
  [group, objectType, permission, manufacturer, role, deviceType, site, ipPrefix, device, interface,
    address]

def label : Kind → String
  | group => "group"
  | objectType => "object type"
  | permission => "permission"
  | manufacturer => "manufacturer"
  | role => "role"
  | deviceType => "device type"
  | site => "site"
  | ipPrefix => "prefix"
  | device => "device"
  | interface => "interface"
  | address => "ip address"

def ofLabel? (label : String) : Option Kind :=
  all.find? fun kind => kind.label = label

@[reducible] def Record : Kind → Type
  | group => Record.Group
  | objectType => Record.ObjectType
  | permission => Record.Permission
  | manufacturer => Record.Manufacturer
  | role => Record.Role
  | deviceType => Record.DeviceType
  | site => Record.Site
  | ipPrefix => Record.IpPrefix
  | device => Record.Device
  | interface => Record.Interface
  | address => Record.Address

/-- What a record of a kind is created from. Object types belong to the database and are never
created. -/
@[reducible] def Draft : Kind → Type
  | group => Draft.Group
  | objectType => Empty
  | permission => Draft.Permission
  | manufacturer => Draft.Manufacturer
  | role => Draft.Role
  | deviceType => Draft.DeviceType
  | site => Draft.Site
  | ipPrefix => Draft.IpPrefix
  | device => Draft.Device
  | interface => Draft.Interface
  | address => Draft.Address

def id : (kind : Kind) → kind.Record → Int
  | group, r => r.id
  | objectType, r => r.id
  | permission, r => r.id
  | manufacturer, r => r.id
  | role, r => r.id
  | deviceType, r => r.id
  | site, r => r.id
  | ipPrefix, r => r.id
  | device, r => r.id
  | interface, r => r.id
  | address, r => r.id

/-- Name, model, network or address: what the record is known by. -/
def key? : (kind : Kind) → kind.Record → Option String
  | group, r => some r.name
  | objectType, r => some r.qualifiedName
  | permission, r => some r.name
  | manufacturer, r => some r.name
  | role, r => some r.name
  | deviceType, r => some r.model
  | site, r => some r.name
  | ipPrefix, r => some r.cidr
  | device, r => r.name
  | interface, r => some r.name
  | address, r => some r.address

/-- The key that a record created from the draft will have. -/
def draftKey : (kind : Kind) → kind.Draft → String
  | group, d => d.name
  | objectType, d => nomatch d
  | permission, d => d.name
  | manufacturer, d => d.name
  | role, d => d.name
  | deviceType, d => d.model
  | site, d => d.name
  | ipPrefix, d => d.cidr
  | device, d => d.name
  | interface, d => d.name
  | address, d => d.address

end Kind

end AssetSeed
