import AssetSeed.Json.Basic

/-!
# The fields of a record

A record is written as an object or, with its values in a fixed order, as an array. An object may
hold keys that the record does not know, and leaves out a field by not naming it. An array may only
end early.

## Main definitions

* `Slot` — a field as it was found.
* `slots?` — the slots of a record's fields, in order.
* `Slot.required`, `Slot.nullable`, `Slot.optional`, `Slot.defaulted` — the rules for a field.
-/

namespace AssetSeed.Json

inductive Slot where
  | found (value : Json)
  /-- The object does not name the field. -/
  | unnamed
  /-- The array ends before the field. -/
  | beyondEnd
deriving Repr, Inhabited

def fieldSlot? (fields : List (String × Json)) (name : String) : Option Slot :=
  match fields.filter fun field => field.1 = name with
  | [] => some .unnamed
  | [field] => some (.found field.2)
  | _ => none

def itemSlots? : List String → List Json → Option (List Slot)
  | [], [] => some []
  | [], _ :: _ => none
  | _ :: names, [] => (itemSlots? names []).map (.beyondEnd :: ·)
  | _ :: names, item :: items => (itemSlots? names items).map (.found item :: ·)

/-- The slots of the fields `names`. A field named twice is refused, and so is an array with too
many values. -/
def slots? (names : List String) : Json → Option (List Slot)
  | .object fields => names.mapM (fieldSlot? fields)
  | .array items => itemSlots? names items
  | _ => none

namespace Slot

variable {α : Type} (read : Json → Option α)

/-- Reads a value that may be null. -/
def orNull : Json → Option (Option α)
  | .null => some none
  | value => (read value).map some

/-- A field that must be there. -/
def required : Slot → Option α
  | .found value => read value
  | _ => none

/-- A field that may be null, and that an object may leave out. -/
def nullable : Slot → Option (Option α)
  | .found value => orNull read value
  | .unnamed => some none
  | .beyondEnd => none

/-- A field that may be null or left out. -/
def optional : Slot → Option (Option α)
  | .found value => orNull read value
  | _ => some none

/-- A field that may be left out and then has the value `default`. -/
def defaulted (default : α) : Slot → Option α
  | .found value => read value
  | _ => some default

end Slot

end AssetSeed.Json
