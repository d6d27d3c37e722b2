/-!
# Records of the asset database

What the database holds, one structure for each kind of object, as its API shows it.

## Main definitions

* `Record.Group`, `Record.Site`, … — the records.
* `Record.Reference` — a record as another one mentions it.
* `Record.Page` — a part of a listing.
-/

namespace AssetSeed.Record

/-- A record as another one mentions it. An unnamed device has no name. -/
structure Reference where
  id : Int
  name : Option String := none
  slug : Option String := none
  display : Option String := none
deriving Repr, DecidableEq, Inhabited

namespace Reference

/-- A mention by name; the empty name is no name. -/
def ofName (id : Int) (name : String) : Reference :=
  { id, name := if name.isEmpty then none else some name }

/-- What to call the record: the first of name and display text that is not empty, else the id. -/
def label (r : Reference) : String :=
  ((r.name.toList ++ r.display.toList).find? (!·.isEmpty)).getD (toString r.id)

end Reference

structure Group where
  id : Int
  name : String
deriving Repr, DecidableEq, Inhabited

structure ObjectType where
  id : Int
  appLabel : String
  model : String
deriving Repr, DecidableEq, Inhabited

/-- The form in which permissions name an object type. -/
def ObjectType.qualifiedName (t : ObjectType) : String :=
  t.appLabel ++ "." ++ t.model

structure Permission where
  id : Int
  name : String
  enabled : Bool
deriving Repr, DecidableEq, Inhabited

structure Manufacturer where
  id : Int
  name : String
  slug : String
deriving Repr, DecidableEq, Inhabited

structure Role where
  id : Int
  name : String
  slug : String
  color : String
deriving Repr, DecidableEq, Inhabited

structure DeviceType where
  id : Int
  model : String
  slug : String
  manufacturer : Option Reference
deriving Repr, DecidableEq, Inhabited

structure Site where
  id : Int
  name : String
  slug : String
deriving Repr, DecidableEq, Inhabited

structure IpPrefix where
  id : Int
  cidr : String
  description : String
  site : Option Reference
  vrf : Option Reference
deriving Repr, DecidableEq, Inhabited

structure Address where
  id : Int
  address : String
  assignedType : Option String
  assignedId : Option Int
deriving Repr, DecidableEq, Inhabited

structure Device where
  id : Int
  name : Option String
  deviceType : Option Reference
  role : Option Reference
  site : Option Reference
  primaryIp4 : Option Address
  primaryIp : Option Address
deriving Repr, DecidableEq, Inhabited

structure Interface where
  id : Int
  name : String
  macAddress : Option String
  device : Option Reference
deriving Repr, DecidableEq, Inhabited

/-- A part of a listing, with links to the parts around it. -/
structure Page (α : Type) where
  count : Int
  next : Option String
  previous : Option String
  results : List α
deriving Repr, DecidableEq

end AssetSeed.Record
