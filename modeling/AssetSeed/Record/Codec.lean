import AssetSeed.Json.Fields
import AssetSeed.Record.Kind

/-!
# Records and drafts as JSON

## Main definitions

* `Wire` — types that are written as JSON and read back.
* `Kind.encode`, `Kind.decode?` — the same for the records of any kind.
* `Kind.encodeDraft` — a draft as it is sent.
-/

namespace AssetSeed

/-- Types that are written as JSON and read back. -/
class Wire (α : Type) where
  encode : α → Json
  decode? : Json → Option α

export Wire (encode decode?)

namespace Json

def orNull (write : α → Json) : Option α → Json
  | none => .null
  | some value => write value

end Json

namespace Record

open Json (orNull int32? text? bool?)

instance : Wire Reference where
  encode r := .object [
    ("id", .integer r.id), ("name", orNull .text r.name), ("slug", orNull .text r.slug),
    ("display", orNull .text r.display)]
  decode? value := do
    let [id, name, slug, display] ← value.slots? ["id", "name", "slug", "display"] | none
    return {
      id := ← id.required int32?
      name := ← name.optional text?
      slug := ← slug.optional text?
      display := ← display.optional text? }

instance : Wire Group where
  encode r := .object [("id", .integer r.id), ("name", .text r.name)]
  decode? value := do
    let [id, name] ← value.slots? ["id", "name"] | none
    return { id := ← id.required int32?, name := ← name.required text? }

instance : Wire ObjectType where
  encode r := .object [
    ("id", .integer r.id), ("app_label", .text r.appLabel), ("model", .text r.model)]
  decode? value := do
    let [id, appLabel, model] ← value.slots? ["id", "app_label", "model"] | none
    return {
      id := ← id.required int32?
      appLabel := ← appLabel.required text?
      model := ← model.required text? }

instance : Wire Permission where
  encode r := .object [
    ("id", .integer r.id), ("name", .text r.name), ("enabled", .bool r.enabled)]
  decode? value := do
    let [id, name, enabled] ← value.slots? ["id", "name", "enabled"] | none
    return {
      id := ← id.required int32?
      name := ← name.required text?
      enabled := ← enabled.defaulted bool? false }

instance : Wire Manufacturer where
  encode r := .object [("id", .integer r.id), ("name", .text r.name), ("slug", .text r.slug)]
  decode? value := do
    let [id, name, slug] ← value.slots? ["id", "name", "slug"] | none
    return {
      id := ← id.required int32?
      name := ← name.required text?
      slug := ← slug.required text? }

instance : Wire Role where
  encode r := .object [
    ("id", .integer r.id), ("name", .text r.name), ("slug", .text r.slug), ("color", .text r.color)]
  decode? value := do
    let [id, name, slug, color] ← value.slots? ["id", "name", "slug", "color"] | none
    return {
      id := ← id.required int32?
      name := ← name.required text?
      slug := ← slug.required text?
      color := ← color.defaulted text? "" }

instance : Wire DeviceType where
  encode r := .object [
    ("id", .integer r.id), ("model", .text r.model), ("slug", .text r.slug),
    ("manufacturer", orNull encode r.manufacturer)]
  decode? value := do
    let [id, model, slug, manufacturer] ←
      value.slots? ["id", "model", "slug", "manufacturer"] | none
    return {
      id := ← id.required int32?
      model := ← model.required text?
      slug := ← slug.required text?
      manufacturer := ← manufacturer.optional decode? }

instance : Wire Site where
  encode r := .object [("id", .integer r.id), ("name", .text r.name), ("slug", .text r.slug)]
  decode? value := do
    let [id, name, slug] ← value.slots? ["id", "name", "slug"] | none
    return {
      id := ← id.required int32?
      name := ← name.required text?
      slug := ← slug.required text? }

instance : Wire IpPrefix where
  encode r := .object [
    ("id", .integer r.id), ("prefix", .text r.cidr), ("description", .text r.description),
    ("site", orNull encode r.site), ("vrf", orNull encode r.vrf)]
  decode? value := do
    let [id, network, description, site, vrf] ←
      value.slots? ["id", "prefix", "description", "site", "vrf"] | none
    return {
      id := ← id.required int32?
      cidr := ← network.required text?
      description := ← description.defaulted text? ""
      site := ← site.optional decode?
      vrf := ← vrf.optional decode? }

instance : Wire Address where
  encode r := .object [
    ("id", .integer r.id), ("address", .text r.address),
    ("assigned_object_type", orNull .text r.assignedType),
    ("assigned_object_id", orNull .integer r.assignedId)]
  decode? value := do
    let [id, address, assignedObjectType, assignedObjectId] ←
      value.slots? ["id", "address", "assigned_object_type", "assigned_object_id"] | none
    return {
      id := ← id.required int32?
      address := ← address.required text?
      assignedType := ← assignedObjectType.optional text?
      assignedId := ← assignedObjectId.optional int32? }

instance : Wire Device where
  encode r := .object [
    ("id", .integer r.id), ("name", orNull .text r.name),
    ("device_type", orNull encode r.deviceType), ("role", orNull encode r.role),
    ("site", orNull encode r.site), ("primary_ip4", orNull encode r.primaryIp4),
    ("primary_ip", orNull encode r.primaryIp)]
  decode? value := do
    let [id, name, deviceType, role, site, primaryIp4, primaryIp] ←
      value.slots?
        ["id", "name", "device_type", "role", "site", "primary_ip4", "primary_ip"] | none
    return {
      id := ← id.required int32?
      name := ← name.nullable text?
      deviceType := ← deviceType.optional decode?
      role := ← role.optional decode?
      site := ← site.optional decode?
      primaryIp4 := ← primaryIp4.optional decode?
      primaryIp := ← primaryIp.optional decode? }

instance : Wire Interface where
  encode r := .object [
    ("id", .integer r.id), ("name", .text r.name), ("mac_address", orNull .text r.macAddress),
    ("device", orNull encode r.device)]
  decode? value := do
    let [id, name, macAddress, device] ←
      value.slots? ["id", "name", "mac_address", "device"] | none
    return {
      id := ← id.required int32?
      name := ← name.required text?
      macAddress := ← macAddress.optional text?
      device := ← device.optional decode? }

/-- The items of an array, each read as an `α`. -/
def items? (α : Type) [Wire α] : Json → Option (List α)
  | .array items => items.mapM decode?
  | _ => none

instance (α : Type) [Wire α] : Wire (Page α) where
  encode p := .object [
    ("count", .integer p.count), ("next", orNull .text p.next),
    ("previous", orNull .text p.previous), ("results", .array (p.results.map encode))]
  decode? value := do
    let [count, next, previous, results] ←
      value.slots? ["count", "next", "previous", "results"] | none
    return {
      count := ← count.required int32?
      next := ← next.nullable text?
      previous := ← previous.nullable text?
      results := ← results.required (items? α) }

end Record

namespace Kind

instance wire : (kind : Kind) → Wire kind.Record
  | group => inferInstanceAs (Wire Record.Group)
  | objectType => inferInstanceAs (Wire Record.ObjectType)
  | permission => inferInstanceAs (Wire Record.Permission)
  | manufacturer => inferInstanceAs (Wire Record.Manufacturer)
  | role => inferInstanceAs (Wire Record.Role)
  | deviceType => inferInstanceAs (Wire Record.DeviceType)
  | site => inferInstanceAs (Wire Record.Site)
  | ipPrefix => inferInstanceAs (Wire Record.IpPrefix)
  | device => inferInstanceAs (Wire Record.Device)
  | interface => inferInstanceAs (Wire Record.Interface)
  | address => inferInstanceAs (Wire Record.Address)

open Json (orNull)

def texts (items : List String) : Json :=
  .array (items.map .text)

/-- A draft as it is sent. An interface without MAC address is sent without that field. -/
def encodeDraft : (kind : Kind) → kind.Draft → Json
  | group, d => .object [("name", .text d.name)]
  | objectType, d => nomatch d
  | permission, d => .object [
      ("name", .text d.name), ("enabled", .bool d.enabled),
      ("groups", .array (d.groups.map .integer)), ("actions", texts d.actions),
      ("object_types", texts d.objectTypes)]
  | manufacturer, d => .object [("name", .text d.name), ("slug", .text d.slug)]
  | role, d => .object [
      ("name", .text d.name), ("slug", .text d.slug), ("vm_role", .bool d.vmRole),
      ("color", .text d.color)]
  | deviceType, d => .object [
      ("manufacturer", orNull .integer d.manufacturer), ("model", .text d.model),
      ("slug", .text d.slug)]
  | site, d => .object [
      ("name", .text d.name), ("slug", .text d.slug), ("status", .text d.status)]
  | ipPrefix, d => .object [
      ("prefix", .text d.cidr), ("site", orNull .integer d.site),
      ("description", .text d.description)]
  | device, d => .object [
      ("name", .text d.name), ("device_type", orNull .integer d.deviceType),
      ("role", orNull .integer d.role), ("site", orNull .integer d.site)]
  | interface, d => .object (
      [("device", .integer d.device), ("name", .text d.name), ("type", .text d.type)]
        ++ (d.macAddress.map fun mac => ("mac_address", Json.text mac)).toList)
  | address, d => .object [
      ("address", .text d.address), ("assigned_object_type", .text d.assignedType),
      ("assigned_object_id", .integer d.assignedId)]

end Kind

namespace Draft

/-- The change of a prefix that gives it a description. -/
def encodeDescription (description : String) : Json :=
  .object [("description", .text description)]

def PrimaryAddress.encode (primary : PrimaryAddress) : Json :=
  .object [(primary.field, .integer primary.id)]

end Draft

end AssetSeed
