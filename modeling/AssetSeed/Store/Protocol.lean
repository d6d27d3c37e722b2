import AssetSeed.Dialogue
import AssetSeed.Record.Kind
import AssetSeed.Store.Error

/-!
# The asset database as a party to talk to

## Main definitions

* `StoreRequest` — what can be asked of the database.
* `StoreRequest.Reply` — what a request returns when it does not fail.
* `StoreProtocol`, `StoreDialogue` — conversations with a database.
-/

namespace AssetSeed

inductive StoreRequest where
  /-- Every record of a kind. -/
  | list (kind : Kind)
  /-- Every prefix whose description is empty. -/
  | listUndescribed
  | create (kind : Kind) (draft : kind.Draft)
  /-- Gives a prefix a description. -/
  | describe (id : Int) (description : String)
  /-- Points a device at its primary address. -/
  | setPrimary (device : Int) (address : Draft.PrimaryAddress)

@[reducible] def StoreRequest.Reply : StoreRequest → Type
  | .list kind => List kind.Record
  | .listUndescribed => List Record.IpPrefix
  | .create kind _ => kind.Record
  | .describe _ _ => Record.IpPrefix
  | .setPrimary _ _ => Record.Device

@[reducible] def StoreProtocol : Protocol where
  Question := StoreRequest
  Answer request := Except StoreError request.Reply

abbrev StoreDialogue := Dialogue StoreProtocol

namespace StoreRequest

/-- Names of the requests on a kind of record. -/
def collection : Kind → String × String
  | .group => ("group", "groups")
  | .objectType => ("object_type", "object_types")
  | .permission => ("permission", "permissions")
  | .manufacturer => ("manufacturer", "manufacturers")
  | .role => ("device_role", "device_roles")
  | .deviceType => ("device_type", "device_types")
  | .site => ("site", "sites")
  | .ipPrefix => ("prefix", "prefixes")
  | .device => ("device", "devices")
  | .interface => ("interface", "interfaces")
  | .address => ("ip_address", "ip_addresses")

def name : StoreRequest → String
  | list kind => "list_" ++ (collection kind).2
  | listUndescribed => "list_prefixes_without_description"
  | create kind _ => "create_" ++ (collection kind).1
  | describe _ _ => "update_prefix"
  | setPrimary _ _ => "set_primary_ip"

/-- What the request is about: the key of a draft, the id of a record, nothing for a listing. -/
def subject : StoreRequest → String
  | list _ => ""
  | listUndescribed => ""
  | create kind draft => kind.draftKey draft
  | describe id _ => toString id
  | setPrimary device _ => toString device

end StoreRequest

end AssetSeed
