/-!
# Indices

An index tells the identifier of the record that a key belongs to.

## Main definitions

* `Index` — keys with one identifier each.
* `Index.insert`, `Index.insertIfNew` — adding a key, with or without replacing what it had.
* `Index.ofList` — the index of a list of pairs; of equal keys the last one counts.
* `Index.get?`, `Index.contains` — looking a key up.
* `Index.lowest?` — the smallest identifier.
-/

namespace AssetSeed

structure Index (κ : Type) where
  entries : List (κ × Int)
  nodup : (entries.map Prod.fst).Nodup

namespace Index

variable {κ : Type} [DecidableEq κ]

instance : DecidableEq (Index κ) := fun a b =>
  if h : a.entries = b.entries then .isTrue (by cases a; cases b; simp_all)
  else .isFalse fun hab => h (hab ▸ rfl)

def empty : Index κ :=
  ⟨[], by simp⟩

instance : Inhabited (Index κ) := ⟨empty⟩

def get? (index : Index κ) (key : κ) : Option Int :=
  (index.entries.find? fun entry => entry.1 = key).map (·.2)

def contains (index : Index κ) (key : κ) : Bool :=
  index.entries.any fun entry => entry.1 = key

def keys (index : Index κ) : List κ :=
  index.entries.map Prod.fst

/-- The index without a key. -/
def erase (index : Index κ) (key : κ) : Index κ where
  entries := index.entries.filter fun entry => entry.1 ≠ key
  nodup := index.nodup.sublist (List.filter_sublist.map _)

theorem not_mem_erase (index : Index κ) (key : κ) :
    key ∉ (index.erase key).entries.map Prod.fst := by
  simp [erase]

def insert (index : Index κ) (key : κ) (id : Int) : Index κ where
  entries := (key, id) :: (index.erase key).entries
  nodup := List.nodup_cons.2 ⟨not_mem_erase index key, (index.erase key).nodup⟩

def insertIfNew (index : Index κ) (key : κ) (id : Int) : Index κ :=
  if index.contains key then index else index.insert key id

def ofList (pairs : List (κ × Int)) : Index κ :=
  pairs.foldl (fun index pair => index.insert pair.1 pair.2) empty

/-- The smallest identifier that some key has. It stands in for a reference that nobody named. -/
def lowest? (index : Index κ) : Option Int :=
  (index.entries.map Prod.snd).min?

end Index

/-- Names, models, networks or addresses, with identifiers. -/
abbrev NameIndex := Index String

end AssetSeed
