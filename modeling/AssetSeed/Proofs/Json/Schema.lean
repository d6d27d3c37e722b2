import AssetSeed.Proofs.Json.Recast
import AssetSeed.Record.Codec
import Mathlib.Logic.Equiv.Defs

/-!
# Schemas of records

A record that is written and read field by field keeps what it is if each of its fields does.

## Main definitions

* `Json.Codec` — writing and reading undo each other, and reading sees no more than a shape.
* `Json.FieldCodec` — the same for a field, which is read from a slot.
* `Json.Schema` — the fields of a record, in order.

## Main statements

* `Json.Schema.codec` — what is written and read by a schema has a codec.
-/

namespace AssetSeed.Json

variable {α β γ : Type}

/-- Writing and reading undo each other, and reading sees no more than a shape. -/
structure Codec (shape : Shape) (write : β → Json) (read : Json → Option β) : Prop where
  read_write : ∀ b, (write b).isNarrow → read (write b) = some b
  isNarrow_of_read : ∀ {value b}, read value = some b → (write b).isNarrow
  write_ne_null : ∀ b, write b ≠ .null
  read_recast : ∀ {i j}, Recast shape i j → read i = read j

/-- Writing a field and reading it from a slot undo each other. -/
structure FieldCodec (shape : Shape) (write : β → Json) (read : Slot → Option β) : Prop where
  read_write : ∀ b, (write b).isNarrow → read (.found (write b)) = some b
  isNarrow_of_read : ∀ {slot b}, read slot = some b → (write b).isNarrow
  read_alike : ∀ {s t}, s.Alike shape t → read s = read t

/-- The fields of a record, in order, with the values that they have together. -/
inductive Schema : Type → Type 1
  | nil : Schema Unit
  | cons {β γ : Type} {shape : Shape} {write : β → Json} {read : Slot → Option β} (name : String)
      (field : FieldCodec shape write read) (rest : Schema γ) : Schema (β × γ)

namespace Schema

def fields : {γ : Type} → Schema γ → List (String × Shape)
  | _, nil => []
  | _, @cons _ _ shape _ _ name _ rest => (name, shape) :: rest.fields

def write : {γ : Type} → Schema γ → γ → List (String × Json)
  | _, nil, _ => []
  | _, @cons _ _ _ write _ name _ rest, (value, values) =>
    (name, write value) :: rest.write values

/-- Reads one field after the other. -/
def read : {γ : Type} → Schema γ → List Slot → (γ → α) → Option α
  | _, nil, [], build => some (build ())
  | _, nil, _ :: _, _ => none
  | _, cons _ _ _, [], _ => none
  | _, @cons _ _ _ _ read _ _ rest, slot :: slots, build => do
    let value ← read slot
    rest.read slots fun values => build (value, values)

/-- What holds of every list with a slot for each field. -/
def ForSlots : {γ : Type} → Schema γ → (List Slot → Prop) → Prop
  | _, nil, holds => holds []
  | _, cons _ _ rest, holds => ∀ slot, rest.ForSlots fun slots => holds (slot :: slots)

end Schema

/-! ## Values -/

theorem Codec.text : Codec .scalar Json.text text? where
  read_write _ _ := rfl
  isNarrow_of_read _ := rfl
  write_ne_null _ := Json.noConfusion
  read_recast := Recast.scalar (fun _ => rfl) (fun _ => rfl)

theorem Codec.bool : Codec .scalar Json.bool bool? where
  read_write _ _ := rfl
  isNarrow_of_read _ := rfl
  write_ne_null _ := Json.noConfusion
  read_recast := Recast.scalar (fun _ => rfl) (fun _ => rfl)

theorem Codec.int32 : Codec .scalar Json.integer int32? where
  read_write _ narrow := if_pos narrow
  isNarrow_of_read {value b} reads := by
    cases value with
    | integer n =>
      rw [int32?] at reads
      split at reads
      · cases reads
        assumption
      · cases reads
    | _ => cases reads
  write_ne_null _ := Json.noConfusion
  read_recast := Recast.scalar (fun _ => rfl) (fun _ => rfl)

theorem areNarrow_iff {items : List Json} : areNarrow items ↔ ∀ item ∈ items, item.isNarrow := by
  induction items with
  | nil => simp [areNarrow]
  | cons item items ih => simp [areNarrow, ih]

/-! ## Fields -/

theorem Slot.Alike.eq_of_found {shape : Shape} {read : Slot → Option β}
    (found : ∀ {i j}, Recast shape i j → read (.found i) = read (.found j)) {s t : Slot}
    (alike : s.Alike shape t) : read s = read t := by
  cases alike with
  | refl => rfl
  | found recast => exact found recast

namespace Codec

variable {shape : Shape} {write : β → Json} {read : Json → Option β}

theorem orNull_of_ne {value : Json} (ne : value ≠ .null) :
    Slot.orNull read value = (read value).map some := by
  cases value with
  | null => exact absurd rfl ne
  | _ => rfl

theorem orNull_write (codec : Codec shape write read) {b : Option β}
    (narrow : (Json.orNull write b).isNarrow) :
    Slot.orNull read (Json.orNull write b) = some b := by
  cases b with
  | none => rfl
  | some b =>
    rw [Json.orNull, orNull_of_ne (codec.write_ne_null b), codec.read_write b narrow]
    rfl

theorem isNarrow_of_orNull (codec : Codec shape write read) {value : Json} {b : Option β}
    (reads : Slot.orNull read value = some b) : (Json.orNull write b).isNarrow := by
  by_cases null : value = .null
  · subst null
    cases reads
    rfl
  · rw [orNull_of_ne null] at reads
    obtain ⟨b, found, rfl⟩ := Option.map_eq_some_iff.1 reads
    exact codec.isNarrow_of_read found

theorem orNull_recast (codec : Codec shape write read) {i j : Json} (recast : Recast shape i j) :
    Slot.orNull read i = Slot.orNull read j := by
  by_cases null : i = .null
  · rw [null, recast.eq_null.1 null]
  · rw [orNull_of_ne null, orNull_of_ne (mt recast.eq_null.2 null), codec.read_recast recast]

theorem required (codec : Codec shape write read) :
    FieldCodec shape write (Slot.required read) where
  read_write := codec.read_write
  isNarrow_of_read {slot b} reads := by
    cases slot with
    | found value => exact codec.isNarrow_of_read reads
    | unnamed | beyondEnd => cases reads
  read_alike := Slot.Alike.eq_of_found codec.read_recast

theorem defaulted (codec : Codec shape write read) (default : β)
    (narrow : (write default).isNarrow) :
    FieldCodec shape write (Slot.defaulted read default) where
  read_write := codec.read_write
  isNarrow_of_read {slot b} reads := by
    cases slot with
    | found value => exact codec.isNarrow_of_read reads
    | unnamed | beyondEnd => cases reads; exact narrow
  read_alike := Slot.Alike.eq_of_found codec.read_recast

theorem nullable (codec : Codec shape write read) :
    FieldCodec shape (Json.orNull write) (Slot.nullable read) where
  read_write _ := codec.orNull_write
  isNarrow_of_read {slot b} reads := by
    cases slot with
    | found value => exact codec.isNarrow_of_orNull reads
    | unnamed => cases reads; rfl
    | beyondEnd => cases reads
  read_alike := Slot.Alike.eq_of_found codec.orNull_recast

theorem optional (codec : Codec shape write read) :
    FieldCodec shape (Json.orNull write) (Slot.optional read) where
  read_write _ := codec.orNull_write
  isNarrow_of_read {slot b} reads := by
    cases slot with
    | found value => exact codec.isNarrow_of_orNull reads
    | unnamed | beyondEnd => cases reads; rfl
  read_alike := Slot.Alike.eq_of_found codec.orNull_recast

end Codec

/-! ## Records -/

namespace Schema

variable {schema : Schema γ}

theorem fst_write (schema : Schema γ) (values : γ) :
    (schema.write values).map Prod.fst = schema.fields.map Prod.fst := by
  induction schema with
  | nil => rfl
  | cons name field rest ih => exact congrArg (name :: ·) (ih values.2)

theorem read_write (schema : Schema γ) {values : γ} (build : γ → α)
    (narrow : areNarrowFields (schema.write values)) :
    schema.read ((schema.write values).map fun field => .found field.2) build =
      some (build values) := by
  induction schema with
  | nil => rfl
  | cons name field rest ih =>
    obtain ⟨value, values⟩ := values
    obtain ⟨first, others⟩ := Bool.and_eq_true_iff.1 narrow
    rw [write, List.map_cons, read, field.read_write value first]
    exact ih (fun values => build (value, values)) others

theorem areNarrow_of_read (schema : Schema γ) {slots : List Slot} {build : γ → α} {a : α}
    (reads : schema.read slots build = some a) :
    ∃ values, build values = a ∧ areNarrowFields (schema.write values) := by
  induction schema generalizing slots with
  | nil =>
    cases slots with
    | nil => cases reads; exact ⟨(), rfl, rfl⟩
    | cons => cases reads
  | cons name field rest ih =>
    cases slots with
    | nil => cases reads
    | cons slot slots =>
      obtain ⟨value, first, others⟩ := Option.bind_eq_some_iff.1 reads
      obtain ⟨values, built, narrow⟩ := ih others
      exact ⟨(value, values), built,
        Bool.and_eq_true_iff.2 ⟨field.isNarrow_of_read first, narrow⟩⟩

theorem read_alike (schema : Schema γ) (build : γ → α) {ss ts : List Slot}
    (alike : SlotsAlike schema.fields ss ts) : schema.read ss build = schema.read ts build := by
  induction schema generalizing ss ts with
  | nil => cases alike; rfl
  | cons name field rest ih =>
    cases alike with
    | @cons _ _ _ s t ss ts first others =>
      rw [read, read, field.read_alike first]
      exact congrArg _ (funext fun value => ih _ others)

theorem ForSlots.of_alike {schema : Schema γ} {holds : List Slot → Prop} {ss ts : List Slot}
    (all : schema.ForSlots holds) (alike : SlotsAlike schema.fields ss ts) : holds ss := by
  induction schema generalizing holds ss ts with
  | nil => cases alike; exact all
  | cons name field rest ih =>
    cases alike with
    | @cons _ _ _ s _ ss _ first others =>
      exact @ih (fun slots => holds (s :: slots)) ss _ (all s) others

/-- What is written and read by a schema has a codec. -/
theorem codec (schema : Schema γ) (parts : α ≃ γ) {write : α → Json} {read : Json → Option α}
    {readSlots : List Slot → Option α} (nodup : (schema.fields.map Prod.fst).Nodup)
    (writes : ∀ a, write a = .object (schema.write (parts a)))
    (reads : ∀ value, read value = (value.slots? (schema.fields.map Prod.fst)).bind readSlots)
    (readsSlots : schema.ForSlots fun slots => readSlots slots = schema.read slots parts.symm) :
    Codec (.record schema.fields) write read := by
  -- Only lists with a slot for each field are read, so what becomes of others does not matter.
  have reads (value : Json) : read value =
      (value.slots? (schema.fields.map Prod.fst)).bind (schema.read · parts.symm) := by
    rw [reads]
    exact bind_eq_of_alike
      (fun alike => (readsSlots.of_alike alike).trans (schema.read_alike parts.symm alike))
      (slots?_alike_refl value)
  constructor
  case read_write =>
    intro a narrow
    rw [writes, isNarrow] at narrow
    rw [reads, writes, ← schema.fst_write (parts a), slots?_object (by rwa [fst_write]),
      Option.bind_some, schema.read_write parts.symm narrow, Equiv.symm_apply_apply]
  case isNarrow_of_read =>
    intro value a found
    rw [reads] at found
    obtain ⟨slots, -, found⟩ := Option.bind_eq_some_iff.1 found
    obtain ⟨values, rfl, narrow⟩ := schema.areNarrow_of_read found
    rw [writes, isNarrow, Equiv.apply_symm_apply]
    exact narrow
  case write_ne_null =>
    intro a
    rw [writes]
    exact Json.noConfusion
  case read_recast =>
    intro i j recast
    rw [reads, reads]
    exact recast.slots?_bind_eq (schema.read_alike parts.symm)

end Schema

end AssetSeed.Json
