import AssetSeed.Proofs.Json.Schema

/-!
# Records on the wire

A record that is written as JSON is read back, and whatever says the same as it is read as the same
record.

## Main definitions

* `Kind.shape`, `Record.Reference.shape`, `Record.Page.shape` — the keys of the records.
* `Record.Faithful` — records are read as they were written.

## Main statements

* `Record.Page.codec` — a page is read as it was written if its items are.
* `Record.records_faithful` — the records of every kind, mentions and pages are faithful.
-/

namespace AssetSeed.Record

open Json (Shape Recast)

/-- Records are read as they were written, in whatever order their keys come and whatever other
keys come with them. -/
structure Faithful (α : Type) [Wire α] (shape : Shape) : Prop where
  decode_encode : ∀ r : α, (encode r).isNarrow → decode? (encode r) = some r
  decode_recast : ∀ i j, Recast shape i j → decode? (α := α) i = decode? j
  decode_encode_of_decode : ∀ (value : Json) (r : α), decode? value = some r →
    decode? (encode r) = some r

/-- The fields that hold a text, a number or a truth value. -/
def scalars (names : List String) : List (String × Shape) :=
  names.map (·, .scalar)

def Reference.shape : Shape :=
  .record (scalars ["id", "name", "slug", "display"])

def Address.shape : Shape :=
  .record (scalars ["id", "address", "assigned_object_type", "assigned_object_id"])

def Page.shape (item : Shape) : Shape :=
  .record (scalars ["count", "next", "previous"] ++ [("results", .items item)])

end Record

/-- The keys of the records of a kind. -/
def Kind.shape : Kind → Json.Shape
  | group => .record (Record.scalars ["id", "name"])
  | objectType => .record (Record.scalars ["id", "app_label", "model"])
  | permission => .record (Record.scalars ["id", "name", "enabled"])
  | manufacturer => .record (Record.scalars ["id", "name", "slug"])
  | role => .record (Record.scalars ["id", "name", "slug", "color"])
  | deviceType =>
    .record (Record.scalars ["id", "model", "slug"] ++ [("manufacturer", Record.Reference.shape)])
  | site => .record (Record.scalars ["id", "name", "slug"])
  | ipPrefix =>
    .record (Record.scalars ["id", "prefix", "description"] ++
      [("site", Record.Reference.shape), ("vrf", Record.Reference.shape)])
  | device =>
    .record (Record.scalars ["id", "name"] ++
      [("device_type", Record.Reference.shape), ("role", Record.Reference.shape),
        ("site", Record.Reference.shape), ("primary_ip4", Record.Address.shape),
        ("primary_ip", Record.Address.shape)])
  | interface =>
    .record (Record.scalars ["id", "name", "mac_address"] ++ [("device", Record.Reference.shape)])
  | address => Record.Address.shape

namespace Record

open Json (Shape Recast Codec Schema)

theorem Faithful.of_codec {α : Type} [Wire α] {shape : Shape}
    (codec : Codec shape (encode (α := α)) decode?) : Faithful α shape where
  decode_encode := codec.read_write
  decode_recast _ _ := codec.read_recast
  decode_encode_of_decode _ r reads := codec.read_write r (codec.isNarrow_of_read reads)

/-- The items of an array are written and read one by one. -/
theorem items_codec {α : Type} [Wire α] {shape : Shape}
    (codec : Codec shape (encode (α := α)) decode?) :
    Codec (.items shape) (fun list => .array (list.map encode)) (items? α) where
  read_write list narrow := by
    have each : ∀ a ∈ list, decode? (encode a) = some (id a) := fun a mem =>
      codec.read_write a (Json.areNarrow_iff.1 narrow _ (List.mem_map_of_mem mem))
    exact (Json.mapM_map_eq_some each).trans (congrArg some list.map_id)
  isNarrow_of_read {value list} reads := by
    cases value with
    | array values =>
      refine Json.areNarrow_iff.2 fun item mem => ?_
      obtain ⟨r, listed, rfl⟩ := List.mem_map.1 mem
      obtain ⟨value, -, reads⟩ := Json.exists_mem_of_mapM_eq_some reads r listed
      exact codec.isNarrow_of_read reads
    | _ => cases reads
  write_ne_null _ := Json.noConfusion
  read_recast {i j} recast := by
    generalize items : Shape.items shape = whole at recast
    induction recast with
    | refl => rfl
    | symm _ ih => exact (ih items).symm
    | trans _ _ ih₁ ih₂ => exact (ih₁ items).trans (ih₂ items)
    | permute | extend | field => rfl
    | @element _ before after a b recast =>
      subst items
      have same := codec.read_recast (recast shape rfl)
      simp only [items?, List.mapM_append, List.mapM_cons, same]

/-! ## Records

Each record has its fields, its parts in their order, and the computations that show that it is
written and read by them.
-/

theorem Reference.codec : Codec shape encode (decode? (α := Reference)) :=
  Schema.codec (α := Reference)
    (.cons "id" Codec.int32.required <| .cons "name" Codec.text.optional <|
      .cons "slug" Codec.text.optional <| .cons "display" Codec.text.optional .nil)
    ⟨fun r => (r.id, r.name, r.slug, r.display, ()), fun p => ⟨p.1, p.2.1, p.2.2.1, p.2.2.2.1⟩,
      fun _ => rfl, fun _ => rfl⟩
    (by decide) (fun _ => rfl) (fun _ => rfl)
    fun _ _ _ _ => rfl

theorem Group.codec : Codec (Kind.shape .group) encode (decode? (α := Group)) :=
  Schema.codec (α := Group)
    (.cons "id" Codec.int32.required <| .cons "name" Codec.text.required .nil)
    ⟨fun r => (r.id, r.name, ()), fun p => ⟨p.1, p.2.1⟩, fun _ => rfl, fun _ => rfl⟩
    (by decide) (fun _ => rfl) (fun _ => rfl)
    fun _ _ => rfl

theorem ObjectType.codec : Codec (Kind.shape .objectType) encode (decode? (α := ObjectType)) :=
  Schema.codec (α := ObjectType)
    (.cons "id" Codec.int32.required <| .cons "app_label" Codec.text.required <|
      .cons "model" Codec.text.required .nil)
    ⟨fun r => (r.id, r.appLabel, r.model, ()), fun p => ⟨p.1, p.2.1, p.2.2.1⟩,
      fun _ => rfl, fun _ => rfl⟩
    (by decide) (fun _ => rfl) (fun _ => rfl)
    fun _ _ _ => rfl

theorem Permission.codec : Codec (Kind.shape .permission) encode (decode? (α := Permission)) :=
  Schema.codec (α := Permission)
    (.cons "id" Codec.int32.required <| .cons "name" Codec.text.required <|
      .cons "enabled" (Codec.bool.defaulted false rfl) .nil)
    ⟨fun r => (r.id, r.name, r.enabled, ()), fun p => ⟨p.1, p.2.1, p.2.2.1⟩,
      fun _ => rfl, fun _ => rfl⟩
    (by decide) (fun _ => rfl) (fun _ => rfl)
    fun _ _ _ => rfl

theorem Manufacturer.codec :
    Codec (Kind.shape .manufacturer) encode (decode? (α := Manufacturer)) :=
  Schema.codec (α := Manufacturer)
    (.cons "id" Codec.int32.required <| .cons "name" Codec.text.required <|
      .cons "slug" Codec.text.required .nil)
    ⟨fun r => (r.id, r.name, r.slug, ()), fun p => ⟨p.1, p.2.1, p.2.2.1⟩,
      fun _ => rfl, fun _ => rfl⟩
    (by decide) (fun _ => rfl) (fun _ => rfl)
    fun _ _ _ => rfl

theorem Role.codec : Codec (Kind.shape .role) encode (decode? (α := Role)) :=
  Schema.codec (α := Role)
    (.cons "id" Codec.int32.required <| .cons "name" Codec.text.required <|
      .cons "slug" Codec.text.required <| .cons "color" (Codec.text.defaulted "" rfl) .nil)
    ⟨fun r => (r.id, r.name, r.slug, r.color, ()), fun p => ⟨p.1, p.2.1, p.2.2.1, p.2.2.2.1⟩,
      fun _ => rfl, fun _ => rfl⟩
    (by decide) (fun _ => rfl) (fun _ => rfl)
    fun _ _ _ _ => rfl

theorem DeviceType.codec : Codec (Kind.shape .deviceType) encode (decode? (α := DeviceType)) :=
  Schema.codec (α := DeviceType)
    (.cons "id" Codec.int32.required <| .cons "model" Codec.text.required <|
      .cons "slug" Codec.text.required <| .cons "manufacturer" Reference.codec.optional .nil)
    ⟨fun r => (r.id, r.model, r.slug, r.manufacturer, ()),
      fun p => ⟨p.1, p.2.1, p.2.2.1, p.2.2.2.1⟩, fun _ => rfl, fun _ => rfl⟩
    (by decide) (fun _ => rfl) (fun _ => rfl)
    fun _ _ _ _ => rfl

theorem Site.codec : Codec (Kind.shape .site) encode (decode? (α := Site)) :=
  Schema.codec (α := Site)
    (.cons "id" Codec.int32.required <| .cons "name" Codec.text.required <|
      .cons "slug" Codec.text.required .nil)
    ⟨fun r => (r.id, r.name, r.slug, ()), fun p => ⟨p.1, p.2.1, p.2.2.1⟩,
      fun _ => rfl, fun _ => rfl⟩
    (by decide) (fun _ => rfl) (fun _ => rfl)
    fun _ _ _ => rfl

theorem IpPrefix.codec : Codec (Kind.shape .ipPrefix) encode (decode? (α := IpPrefix)) :=
  Schema.codec (α := IpPrefix)
    (.cons "id" Codec.int32.required <| .cons "prefix" Codec.text.required <|
      .cons "description" (Codec.text.defaulted "" rfl) <|
      .cons "site" Reference.codec.optional <| .cons "vrf" Reference.codec.optional .nil)
    ⟨fun r => (r.id, r.cidr, r.description, r.site, r.vrf, ()),
      fun p => ⟨p.1, p.2.1, p.2.2.1, p.2.2.2.1, p.2.2.2.2.1⟩, fun _ => rfl, fun _ => rfl⟩
    (by decide) (fun _ => rfl) (fun _ => rfl)
    fun _ _ _ _ _ => rfl

theorem Address.codec : Codec shape encode (decode? (α := Address)) :=
  Schema.codec (α := Address)
    (.cons "id" Codec.int32.required <| .cons "address" Codec.text.required <|
      .cons "assigned_object_type" Codec.text.optional <|
      .cons "assigned_object_id" Codec.int32.optional .nil)
    ⟨fun r => (r.id, r.address, r.assignedType, r.assignedId, ()),
      fun p => ⟨p.1, p.2.1, p.2.2.1, p.2.2.2.1⟩, fun _ => rfl, fun _ => rfl⟩
    (by decide) (fun _ => rfl) (fun _ => rfl)
    fun _ _ _ _ => rfl

theorem Device.codec : Codec (Kind.shape .device) encode (decode? (α := Device)) :=
  Schema.codec (α := Device)
    (.cons "id" Codec.int32.required <| .cons "name" Codec.text.nullable <|
      .cons "device_type" Reference.codec.optional <| .cons "role" Reference.codec.optional <|
      .cons "site" Reference.codec.optional <| .cons "primary_ip4" Address.codec.optional <|
      .cons "primary_ip" Address.codec.optional .nil)
    ⟨fun r => (r.id, r.name, r.deviceType, r.role, r.site, r.primaryIp4, r.primaryIp, ()),
      fun p => ⟨p.1, p.2.1, p.2.2.1, p.2.2.2.1, p.2.2.2.2.1, p.2.2.2.2.2.1, p.2.2.2.2.2.2.1⟩,
      fun _ => rfl, fun _ => rfl⟩
    (by decide) (fun _ => rfl) (fun _ => rfl)
    fun _ _ _ _ _ _ _ => rfl

theorem Interface.codec : Codec (Kind.shape .interface) encode (decode? (α := Interface)) :=
  Schema.codec (α := Interface)
    (.cons "id" Codec.int32.required <| .cons "name" Codec.text.required <|
      .cons "mac_address" Codec.text.optional <| .cons "device" Reference.codec.optional .nil)
    ⟨fun r => (r.id, r.name, r.macAddress, r.device, ()),
      fun p => ⟨p.1, p.2.1, p.2.2.1, p.2.2.2.1⟩, fun _ => rfl, fun _ => rfl⟩
    (by decide) (fun _ => rfl) (fun _ => rfl)
    fun _ _ _ _ => rfl

/-- A page is read as it was written if its items are. -/
theorem Page.codec {α : Type} [Wire α] {item : Shape}
    (codec : Codec item (encode (α := α)) decode?) :
    Codec (shape item) encode (decode? (α := Page α)) :=
  Schema.codec (α := Page α)
    (.cons "count" Codec.int32.required <| .cons "next" Codec.text.nullable <|
      .cons "previous" Codec.text.nullable <| .cons "results" (items_codec codec).required .nil)
    ⟨fun p => (p.count, p.next, p.previous, p.results, ()),
      fun p => ⟨p.1, p.2.1, p.2.2.1, p.2.2.2.1⟩, fun _ => rfl, fun _ => rfl⟩
    (show ["count", "next", "previous", "results"].Nodup by decide) (fun _ => rfl) (fun _ => rfl)
    fun _ _ _ _ => rfl

/-- The records of every kind. -/
theorem codec : (kind : Kind) → Codec kind.shape (encode (α := kind.Record)) decode?
  | .group => Group.codec
  | .objectType => ObjectType.codec
  | .permission => Permission.codec
  | .manufacturer => Manufacturer.codec
  | .role => Role.codec
  | .deviceType => DeviceType.codec
  | .site => Site.codec
  | .ipPrefix => IpPrefix.codec
  | .device => Device.codec
  | .interface => Interface.codec
  | .address => Address.codec

/-- The records of every kind are read as they were written, and so are mentions and pages. -/
theorem records_faithful :
    (∀ kind : Kind, Faithful kind.Record kind.shape) ∧ Faithful Reference Reference.shape ∧
      ∀ kind : Kind, Faithful (Page kind.Record) (Page.shape kind.shape) :=
  ⟨fun kind => .of_codec (codec kind), .of_codec Reference.codec,
    fun kind => .of_codec (Page.codec (codec kind))⟩

/-- An interface of a device without a name, as the database may write it. -/
theorem records_faithful_unnamed_device :
    decode? (.object [
      ("device", .object [
        ("display", .text "Unnamed device"), ("slug", .null), ("name", .null), ("id", .integer 9),
        ("url", .text "/api/dcim/devices/9/")]),
      ("mac_address", .null), ("name", .text "eth0"), ("id", .integer 3),
      ("enabled", .bool true)]) =
    some (⟨3, "eth0", none, some ⟨9, none, none, some "Unnamed device"⟩⟩ : Interface) := by
  have interfaces := records_faithful.1 .interface
  let interface : Interface := ⟨3, "eth0", none, some ⟨9, none, none, some "Unnamed device"⟩⟩
  have unknown : "enabled" ∉ (Kind.shape .interface).fields.map Prod.fst := by decide
  have unknown' : "url" ∉ Reference.shape.fields.map Prod.fst := by decide
  refine (interfaces.decode_recast _ (encode interface) ?_).trans
    (interfaces.decode_encode interface (by decide))
  refine .trans (.permute (List.reverse_perm _).symm) (.trans (.symm (.extend _ unknown)) ?_)
  refine @Recast.field _ [_, _, _] [] "device" _ _ fun inner mem => ?_
  obtain rfl : inner = Reference.shape := by simpa [Kind.shape, Shape.fields, scalars] using mem
  exact .trans (.permute (List.reverse_perm _).symm) (.symm (.extend _ unknown'))

end Record

end AssetSeed
