import AssetSeed.Json.Fields

/-!
# Values that say the same

The keys of an object come in any order, and a record takes no notice of those that it does not
have. So one value can be recast as another one that says the same to whoever reads it.

## Main definitions

* `Json.Shape` — the records that are looked for in a value, with the keys that they have.
* `Json.Recast` — keys are permuted or added, at any depth.
* `Json.Slot.Alike`, `Json.SlotsAlike` — fields that are found the same up to recasting.
* `Json.isNarrow` — every integer in a value fits 32 bits.

## Main statements

* `Json.slots?_object` — the fields of an object that does not repeat a key.
* `Json.Recast.slots?_bind_eq` — what is read from the fields of recast values is the same.
* `Json.Recast.scalar` — what reads neither objects nor arrays reads recast values alike.
-/

namespace AssetSeed.Json

/-- What is looked for in a value: nothing within it, the fields of a record or the items of a
list. -/
inductive Shape where
  | scalar
  | record (fields : List (String × Shape))
  | items (item : Shape)

namespace Shape

/-- The keys that count in an object, with the shapes of their values. -/
def fields : Shape → List (String × Shape)
  | record fields => fields
  | _ => []

/-- The shape of a value in an array. A record can be written as the array of its fields. -/
def element? : Shape → Nat → Option Shape
  | record fields, i => (fields[i]?).map (·.2)
  | items item, _ => some item
  | scalar, _ => none

end Shape

/-- A value is recast as another one where keys are permuted and keys are added or removed that do
not count, in the value itself or at any depth. What is of no shape may change at will. -/
inductive Recast : Shape → Json → Json → Prop
  | refl {shape : Shape} (value : Json) : Recast shape value value
  | symm {shape : Shape} {a b : Json} (recast : Recast shape a b) : Recast shape b a
  | trans {shape : Shape} {a b c : Json} (first : Recast shape a b) (second : Recast shape b c) :
      Recast shape a c
  | permute {shape : Shape} {fields fields' : List (String × Json)}
      (perm : fields.Perm fields') : Recast shape (.object fields) (.object fields')
  | extend {shape : Shape} {fields : List (String × Json)} {key : String} (value : Json)
      (unknown : key ∉ shape.fields.map Prod.fst) :
      Recast shape (.object fields) (.object ((key, value) :: fields))
  | field {shape : Shape} {before after : List (String × Json)} {key : String} {a b : Json}
      (recast : ∀ inner, (key, inner) ∈ shape.fields → Recast inner a b) :
      Recast shape (.object (before ++ (key, a) :: after)) (.object (before ++ (key, b) :: after))
  | element {shape : Shape} {before after : List Json} {a b : Json}
      (recast : ∀ inner, shape.element? before.length = some inner → Recast inner a b) :
      Recast shape (.array (before ++ a :: after)) (.array (before ++ b :: after))

/-- The same is found up to recasting. -/
inductive Slot.Alike (shape : Shape) : Slot → Slot → Prop
  | refl (slot : Slot) : Alike shape slot slot
  | found {a b : Json} (recast : Recast shape a b) : Alike shape (.found a) (.found b)

/-- The same is found in every one of some fields. -/
inductive SlotsAlike : List (String × Shape) → List Slot → List Slot → Prop
  | nil : SlotsAlike [] [] []
  | cons {name : String} {shape : Shape} {fields : List (String × Shape)} {s t : Slot}
      {ss ts : List Slot} (head : s.Alike shape t) (tail : SlotsAlike fields ss ts) :
      SlotsAlike ((name, shape) :: fields) (s :: ss) (t :: ts)

mutual

/-- Every integer in the value fits 32 bits with a sign. -/
def isNarrow : Json → Bool
  | .integer n => -2147483648 ≤ n && n ≤ 2147483647
  | .array items => areNarrow items
  | .object fields => areNarrowFields fields
  | _ => true

def areNarrow : List Json → Bool
  | [] => true
  | item :: rest => item.isNarrow && areNarrow rest

def areNarrowFields : List (String × Json) → Bool
  | [] => true
  | (_, value) :: rest => value.isNarrow && areNarrowFields rest

end

theorem Recast.eq_null {shape : Shape} {a b : Json} (recast : Recast shape a b) :
    a = .null ↔ b = .null := by
  induction recast with
  | refl => exact Iff.rfl
  | symm _ ih => exact ih.symm
  | trans _ _ ih₁ ih₂ => exact ih₁.trans ih₂
  | permute | extend | field | element => simp

/-- What reads neither objects nor arrays reads recast values alike. -/
theorem Recast.scalar {α : Type} {read : Json → Option α} {shape : Shape} {a b : Json}
    (object : ∀ fields, read (.object fields) = none)
    (array : ∀ items, read (.array items) = none) (recast : Recast shape a b) :
    read a = read b := by
  induction recast with
  | refl => rfl
  | symm _ ih => exact ih.symm
  | trans _ _ ih₁ ih₂ => exact ih₁.trans ih₂
  | permute | extend | field => rw [object, object]
  | element => rw [array, array]

/-! ## Lists that are read one by one -/

theorem mapM_map_eq_some {α β γ : Type} {f : β → Option γ} {g : α → β} {h : α → γ} {l : List α}
    (each : ∀ a ∈ l, f (g a) = some (h a)) : (l.map g).mapM f = some (l.map h) := by
  induction l with
  | nil => rfl
  | cons a l ih =>
    have rest := ih fun a mem => each a (List.mem_cons_of_mem _ mem)
    rw [List.map_cons, List.mapM_cons, each a List.mem_cons_self, rest]
    rfl

theorem exists_mem_of_mapM_eq_some {α β : Type} {f : α → Option β} {l : List α} {found : List β}
    (all : l.mapM f = some found) : ∀ b ∈ found, ∃ a ∈ l, f a = some b := by
  induction l generalizing found with
  | nil =>
    cases all
    exact fun _ mem => absurd mem List.not_mem_nil
  | cons a l ih =>
    rw [List.mapM_cons] at all
    obtain ⟨b, first, all⟩ := Option.bind_eq_some_iff.1 all
    obtain ⟨rest, others, all⟩ := Option.bind_eq_some_iff.1 all
    cases all
    rintro c (_ | ⟨_, mem⟩)
    · exact ⟨a, List.mem_cons_self, first⟩
    · obtain ⟨a', mem, reads⟩ := ih others c mem
      exact ⟨a', List.mem_cons_of_mem _ mem, reads⟩

/-! ## Fields of objects -/

theorem Slot.alike_of_eq {shape : Shape} {s t : Option Slot} (eq : s = t) :
    Option.Rel (Slot.Alike shape) s t := by
  subst eq
  cases s with
  | none => exact .none
  | some slot => exact .some (.refl slot)

section

variable {fields fields' before after : List (String × Json)} {name key : String} {a b : Json}

theorem fieldSlot?_perm (perm : fields.Perm fields') (name : String) :
    fieldSlot? fields name = fieldSlot? fields' name := by
  have named := perm.filter fun field => decide (field.1 = name)
  rw [fieldSlot?, fieldSlot?]
  generalize (fields.filter fun field => decide (field.1 = name)) = found at named
  generalize (fields'.filter fun field => decide (field.1 = name)) = found' at named
  -- The order of several does not matter, since several are refused.
  match found, found' with
  | [], _ => rw [List.nil_perm.1 named]
  | [_], _ => rw [List.singleton_perm.1 named]
  | _ :: _ :: _, _ :: _ :: _ => rfl
  | _ :: _ :: _, [] | _ :: _ :: _, [_] => exact absurd named.length_eq (by simp)

theorem fieldSlot?_cons_of_ne (value : Json) (other : key ≠ name) :
    fieldSlot? ((key, value) :: fields) name = fieldSlot? fields name := by
  rw [fieldSlot?, fieldSlot?, List.filter_cons_of_neg (by simpa using other)]

/-- One value of an object is recast, which is found if its key is not repeated. -/
theorem fieldSlot?_alike {shape : Shape} (recast : key = name → Recast shape a b) :
    Option.Rel (Slot.Alike shape) (fieldSlot? (before ++ (key, a) :: after) name)
      (fieldSlot? (before ++ (key, b) :: after) name) := by
  by_cases named : key = name
  · rw [fieldSlot?, fieldSlot?, List.filter_append, List.filter_append,
      List.filter_cons_of_pos (by simpa using named),
      List.filter_cons_of_pos (by simpa using named)]
    generalize (before.filter fun field => decide (field.1 = name)) = earlier
    generalize (after.filter fun field => decide (field.1 = name)) = later
    match earlier, later with
    | [], [] => exact .some (.found (recast named))
    | [], _ :: _ | [_], _ | _ :: _ :: _, _ => exact .none
  · refine Slot.alike_of_eq ?_
    rw [fieldSlot?, fieldSlot?, List.filter_append, List.filter_append,
      List.filter_cons_of_neg (by simpa using named),
      List.filter_cons_of_neg (by simpa using named)]

theorem fieldSlot?_of_mem {value : Json} (nodup : (fields.map Prod.fst).Nodup)
    (mem : (name, value) ∈ fields) : fieldSlot? fields name = some (.found value) := by
  induction fields with
  | nil => exact absurd mem List.not_mem_nil
  | cons field fields ih =>
    obtain ⟨fresh, nodup⟩ := List.nodup_cons.1 nodup
    rcases List.mem_cons.1 mem with rfl | mem
    · have only : (fields.filter fun field => decide (field.1 = name)) = [] :=
        List.filter_eq_nil_iff.2 fun field mem eq =>
          fresh (List.mem_map.2 ⟨field, mem, of_decide_eq_true eq⟩)
      rw [fieldSlot?, List.filter_cons_of_pos (by simp), only]
    · have other : field.1 ≠ name := fun eq => fresh (List.mem_map.2 ⟨_, mem, eq.symm⟩)
      rw [fieldSlot?_cons_of_ne field.2 other, ih nodup mem]

/-- The fields of an object that does not repeat a key. -/
theorem slots?_object (nodup : (fields.map Prod.fst).Nodup) :
    (Json.object fields).slots? (fields.map Prod.fst) =
      some (fields.map fun field => .found field.2) :=
  mapM_map_eq_some fun _ mem => fieldSlot?_of_mem nodup mem

end

/-! ## Fields of recast values -/

section

variable {known : List (String × Shape)}

/-- Fields that are found alike one by one are alike together. -/
theorem mapM_alike {f g : String → Option Slot}
    (alike : ∀ name shape, (name, shape) ∈ known →
      Option.Rel (Slot.Alike shape) (f name) (g name)) :
    Option.Rel (SlotsAlike known) ((known.map Prod.fst).mapM f) ((known.map Prod.fst).mapM g) := by
  induction known with
  | nil => exact .some .nil
  | cons field known ih =>
    obtain ⟨name, shape⟩ := field
    have rest := ih fun name shape mem => alike name shape (List.mem_cons_of_mem _ mem)
    have first := alike name shape List.mem_cons_self
    rw [List.map_cons, List.mapM_cons, List.mapM_cons]
    generalize f name = s at first
    generalize g name = t at first
    generalize (known.map Prod.fst).mapM f = ss at rest
    generalize (known.map Prod.fst).mapM g = ts at rest
    match first, rest with
    | .none, _ => exact .none
    | .some _, .none => exact .none
    | .some first, .some rest => exact .some (.cons first rest)

theorem itemSlots?_cons_alike {name : String} {shape : Shape} {items items' : List Json}
    {item item' : Json} (first : (Slot.found item).Alike shape (.found item'))
    (rest : Option.Rel (SlotsAlike known) (itemSlots? (known.map Prod.fst) items)
      (itemSlots? (known.map Prod.fst) items')) :
    Option.Rel (SlotsAlike ((name, shape) :: known))
      (itemSlots? (name :: known.map Prod.fst) (item :: items))
      (itemSlots? (name :: known.map Prod.fst) (item' :: items')) := by
  rw [itemSlots?, itemSlots?]
  generalize itemSlots? (known.map Prod.fst) items = ss at rest
  generalize itemSlots? (known.map Prod.fst) items' = ts at rest
  match rest with
  | .none => exact .none
  | .some rest => exact .some (.cons first rest)

theorem itemSlots?_alike_refl (items : List Json) :
    Option.Rel (SlotsAlike known) (itemSlots? (known.map Prod.fst) items)
      (itemSlots? (known.map Prod.fst) items) := by
  induction known generalizing items with
  | nil => cases items with
    | nil => exact .some .nil
    | cons => exact .none
  | cons field known ih =>
    cases items with
    | nil =>
      have rest := ih []
      rw [List.map_cons, itemSlots?]
      generalize itemSlots? (known.map Prod.fst) [] = ss at rest
      match rest with
      | .none => exact .none
      | .some rest => exact .some (.cons (.refl _) rest)
    | cons item items => exact itemSlots?_cons_alike (.refl _) (ih items)

theorem itemSlots?_alike {before after : List Json} {a b : Json}
    (recast : ∀ inner, (known[before.length]?).map (·.2) = some inner → Recast inner a b) :
    Option.Rel (SlotsAlike known) (itemSlots? (known.map Prod.fst) (before ++ a :: after))
      (itemSlots? (known.map Prod.fst) (before ++ b :: after)) := by
  induction known generalizing before with
  | nil => cases before <;> exact .none
  | cons field known ih =>
    cases before with
    | nil => exact itemSlots?_cons_alike (.found (recast _ rfl)) (itemSlots?_alike_refl after)
    | cons item before => exact itemSlots?_cons_alike (.refl _) (ih recast)

/-- There is a slot for each field. -/
theorem slots?_alike_refl (value : Json) :
    Option.Rel (SlotsAlike known) (value.slots? (known.map Prod.fst))
      (value.slots? (known.map Prod.fst)) := by
  cases value with
  | object fields => exact mapM_alike fun _ _ _ => Slot.alike_of_eq rfl
  | array items => exact itemSlots?_alike_refl items
  | _ => exact .none

variable {α : Type} {read read' : List Slot → Option α}

theorem bind_eq_of_alike (same : ∀ {ss ts}, SlotsAlike known ss ts → read ss = read' ts)
    {ss ts : Option (List Slot)} (alike : Option.Rel (SlotsAlike known) ss ts) :
    ss.bind read = ts.bind read' := by
  cases alike with
  | none => rfl
  | some alike => exact same alike

/-- What is read from the fields of recast values is the same. -/
theorem Recast.slots?_bind_eq {a b : Json} (recast : Recast (.record known) a b)
    (congr : ∀ {ss ts}, SlotsAlike known ss ts → read ss = read ts) :
    (a.slots? (known.map Prod.fst)).bind read = (b.slots? (known.map Prod.fst)).bind read := by
  generalize record : Shape.record known = shape at recast
  induction recast with
  | refl => rfl
  | symm _ ih => exact (ih record).symm
  | trans _ _ ih₁ ih₂ => exact (ih₁ record).trans (ih₂ record)
  | permute perm =>
    exact bind_eq_of_alike congr (mapM_alike fun name _ _ =>
      Slot.alike_of_eq (fieldSlot?_perm perm name))
  | extend value unknown =>
    subst record
    refine (bind_eq_of_alike congr (mapM_alike fun name shape mem => Slot.alike_of_eq ?_)).symm
    exact fieldSlot?_cons_of_ne value fun eq => unknown (List.mem_map.2 ⟨_, mem, eq.symm⟩)
  | field recast =>
    subst record
    exact bind_eq_of_alike congr (mapM_alike fun name shape mem =>
      fieldSlot?_alike fun eq => recast shape (eq ▸ mem))
  | element recast =>
    subst record
    exact bind_eq_of_alike congr (itemSlots?_alike recast)

end

end AssetSeed.Json
