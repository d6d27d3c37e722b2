/-!
# Drafts

What is sent to the asset database to have a record created or changed.
-/

namespace AssetSeed.Draft

structure Group where
  name : String
deriving Repr, DecidableEq

structure Permission where
  name : String
  enabled : Bool
  groups : List Int
  actions : List String
  objectTypes : List String
deriving Repr, DecidableEq

structure Manufacturer where
  name : String
  slug : String
deriving Repr, DecidableEq

structure Role where
  name : String
  slug : String
  vmRole : Bool
  color : String
deriving Repr, DecidableEq

structure DeviceType where
  manufacturer : Option Int
  model : String
  slug : String
deriving Repr, DecidableEq

structure Site where
  name : String
  slug : String
  status : String
deriving Repr, DecidableEq

structure IpPrefix where
  cidr : String
  site : Option Int
  description : String
deriving Repr, DecidableEq

structure Device where
  name : String
  deviceType : Option Int
  role : Option Int
  site : Option Int
deriving Repr, DecidableEq

structure Interface where
  device : Int
  name : String
  type : String
  macAddress : Option String
deriving Repr, DecidableEq

structure Address where
  address : String
  assignedType : String
  assignedId : Int
deriving Repr, DecidableEq

/-- The address of a device that is to become its primary one, in the field of its family. -/
inductive PrimaryAddress where
  | v4 (id : Int)
  | v6 (id : Int)
deriving Repr, DecidableEq

namespace PrimaryAddress

def field : PrimaryAddress → String
  | .v4 _ => "primary_ip4"
  | .v6 _ => "primary_ip"

def id : PrimaryAddress → Int
  | .v4 id => id
  | .v6 id => id

end PrimaryAddress

end AssetSeed.Draft
