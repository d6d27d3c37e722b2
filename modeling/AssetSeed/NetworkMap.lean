import AssetSeed.Address.HostAddress
import AssetSeed.Address.Network
import AssetSeed.Json.Reader

/-!
# Network maps

A network map names the segments and hosts of a network. It is a JSON list of entries, or a single
entry; an entry that is neither a segment nor a host with a name and an address is passed over.

## Main definitions

* `NetworkMap` — segments and hosts.
* `NetworkMap.ofJson` — the map of a JSON value.
* `NetworkMap.ofText?` — the map of a text, if that is JSON.
-/

namespace AssetSeed

structure Segment where
  name : String
  network : Network
deriving DecidableEq

structure Host where
  name : String
  address : HostAddress
deriving Repr, DecidableEq

structure NetworkMap where
  segments : List Segment := []
  hosts : List Host := []
deriving DecidableEq

namespace NetworkMap

/-- A text that is not empty. -/
def someText? : Json → Option String
  | .text s => if s.isEmpty then none else some s
  | _ => none

/-- Name and address of an entry whose type is `type`. -/
def entry? (type : String) (value : Json) : Option (String × String) := do
  let .object fields := value | none
  let found ← (Json.lastField? "type" fields).bind Json.text?
  let name ← (Json.lastField? "name" fields).bind someText?
  let address ← (Json.lastField? "address" fields).bind someText?
  if found = type then some (name, address) else none

def segment? (value : Json) : Option Segment := do
  let (name, address) ← entry? "segment" value
  let network ← Network.ofText? address.toList
  return { name, network }

def host? (value : Json) : Option Host := do
  let (name, address) ← entry? "host" value
  return { name, address := HostAddress.classify address }

def entries : Json → List Json
  | .array items => items
  | value => [value]

def ofJson (document : Json) : NetworkMap where
  segments := (entries document).filterMap segment?
  hosts := (entries document).filterMap host?

def ofText? (text : String) : Option NetworkMap :=
  (Json.document? text).map ofJson

def isEmpty (map : NetworkMap) : Bool :=
  map.segments.isEmpty && map.hosts.isEmpty

end NetworkMap

end AssetSeed
