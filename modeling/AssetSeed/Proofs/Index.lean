import AssetSeed.Index
import Mathlib.Data.List.Induction

/-!
# Laws of indices

## Main statements

* `Index.get?_eq_some_iff` — looking up is membership.
* `Index.get?_insert`, `Index.get?_insertIfNew` — looking up after a key was added.
* `Index.mem_of_mem_ofList`, `Index.contains_ofList` — the index of a list of pairs.
* `Index.mem_entries_ofList` — of the pairs of a key the last one counts.
* `Index.exists_mem_of_lowest?`, `Index.le_of_lowest?` — the smallest identifier is that of some key,
  and no key has a smaller one.
-/

namespace AssetSeed.Index

variable {κ : Type} [DecidableEq κ] {index : Index κ} {key : κ} {id : Int}

theorem get?_eq_some_iff : index.get? key = some id ↔ (key, id) ∈ index.entries := by
  obtain ⟨entries, nodup⟩ := index
  rw [get?, Option.map_eq_some_iff]
  dsimp only
  induction entries with
  | nil => simp
  | cons entry rest ih =>
    obtain ⟨k, i⟩ := entry
    obtain ⟨hnot, hrest⟩ := List.nodup_cons.1 nodup
    by_cases hk : k = key
    · subst hk
      have absent : (k, id) ∉ rest := fun h => hnot (List.mem_map.2 ⟨_, h, rfl⟩)
      simp [absent, eq_comm]
    · have hne : key ≠ k := fun h => hk h.symm
      simpa [hk, hne] using ih hrest

theorem contains_iff : index.contains key = true ↔ key ∈ index.entries.map Prod.fst := by
  simp [contains]

theorem contains_of_get? (h : index.get? key = some id) : index.contains key = true :=
  contains_iff.2 (List.mem_map_of_mem (get?_eq_some_iff.1 h))

theorem exists_get?_of_contains (h : index.contains key = true) :
    ∃ id, index.get? key = some id := by
  obtain ⟨⟨k, id⟩, hmem, rfl⟩ := List.mem_map.1 (contains_iff.1 h)
  exact ⟨id, get?_eq_some_iff.2 hmem⟩

theorem mem_keys_iff : key ∈ index.keys ↔ (index.get? key).isSome := by
  rw [keys, ← contains_iff, Option.isSome_iff_exists]
  constructor
  · exact exists_get?_of_contains
  · rintro ⟨id, found⟩
    exact contains_of_get? found

omit [DecidableEq κ] in
@[simp] theorem entries_empty : (empty : Index κ).entries = [] := rfl

theorem mem_entries_insert {entry : κ × Int} : entry ∈ (index.insert key id).entries ↔
    entry = (key, id) ∨ entry ∈ index.entries ∧ entry.1 ≠ key := by
  simp [insert, erase]

theorem get?_insert (k : κ) :
    (index.insert key id).get? k = if k = key then some id else index.get? k := by
  split
  · next same =>
    rw [get?_eq_some_iff, mem_entries_insert, same]
    exact .inl rfl
  · next other =>
    apply Option.ext
    intro i
    simp [get?_eq_some_iff, mem_entries_insert, other]

theorem get?_insertIfNew (k : κ) : (index.insertIfNew key id).get? k =
    if k = key then (index.get? key).or (some id) else index.get? k := by
  rw [insertIfNew]
  cases known : index.contains key with
  | true =>
    obtain ⟨i, found⟩ := exists_get?_of_contains known
    rw [if_pos rfl, found, Option.some_or, ← found]
    split
    · next same => rw [same]
    · rfl
  | false =>
    have absent : index.get? key = none := by
      rw [Option.eq_none_iff_forall_ne_some]
      intro i found
      simp [contains_of_get? found] at known
    rw [if_neg Bool.false_ne_true, get?_insert, absent, Option.none_or]

theorem mem_of_mem_insert {entry : κ × Int} (h : entry ∈ (index.insert key id).entries) :
    entry = (key, id) ∨ entry ∈ index.entries :=
  (mem_entries_insert.1 h).imp_right And.left

theorem mem_of_mem_insertIfNew {entry : κ × Int}
    (h : entry ∈ (index.insertIfNew key id).entries) :
    entry = (key, id) ∨ entry ∈ index.entries := by
  rw [insertIfNew] at h
  split at h
  · exact .inr h
  · exact mem_of_mem_insert h

theorem keys_insert {k : κ} : k ∈ (index.insert key id).entries.map Prod.fst ↔
    k = key ∨ k ∈ index.entries.map Prod.fst := by
  by_cases h : k = key <;> simp [insert, erase, h]

theorem mem_of_mem_ofList {pairs : List (κ × Int)} {entry : κ × Int}
    (h : entry ∈ (ofList pairs).entries) : entry ∈ pairs := by
  -- the induction goes over the pairs with whatever index has been built before them
  suffices ∀ index : Index κ,
      entry ∈ (pairs.foldl (fun index pair => index.insert pair.1 pair.2) index).entries →
        entry ∈ index.entries ∨ entry ∈ pairs by
    simpa using this empty h
  clear h
  induction pairs with
  | nil => exact fun index h => .inl h
  | cons pair rest ih =>
    intro index h
    obtain h | h := ih _ h
    · obtain rfl | h := mem_of_mem_insert h
      · exact .inr List.mem_cons_self
      · exact .inl h
    · exact .inr (List.mem_cons_of_mem _ h)

theorem contains_ofList {pairs : List (κ × Int)} :
    (ofList pairs).contains key = true ↔ key ∈ pairs.map Prod.fst := by
  suffices ∀ index : Index κ,
      key ∈ (pairs.foldl (fun index pair => index.insert pair.1 pair.2) index).entries.map Prod.fst
        ↔ key ∈ index.entries.map Prod.fst ∨ key ∈ pairs.map Prod.fst by
    rw [contains_iff, ofList, this empty]
    simp
  induction pairs with
  | nil => simp
  | cons pair rest ih =>
    intro index
    rw [List.foldl_cons, ih, keys_insert, List.map_cons, List.mem_cons]
    exact or_assoc.trans or_left_comm

theorem ofList_append_singleton (pairs : List (κ × Int)) (pair : κ × Int) :
    ofList (pairs ++ [pair]) = (ofList pairs).insert pair.1 pair.2 := by
  rw [ofList, List.foldl_append]
  rfl

/-- Of the pairs of a key the last one counts. -/
theorem mem_entries_ofList {pairs : List (κ × Int)} : (key, id) ∈ (ofList pairs).entries ↔
    ∃ before after, pairs = before ++ (key, id) :: after ∧ key ∉ after.map Prod.fst := by
  -- the induction adds a pair at the end, where it replaces what its key had
  induction pairs using List.reverseRecOn with
  | nil => simp [ofList]
  | append_singleton pairs pair ih =>
    obtain ⟨k, i⟩ := pair
    rw [ofList_append_singleton, mem_entries_insert, ih]
    constructor
    · rintro (heq | ⟨⟨before, after, rfl, hafter⟩, hne⟩)
      · exact ⟨pairs, [], heq ▸ rfl, List.not_mem_nil⟩
      · have hne' : key ≠ k := hne
        exact ⟨before, after ++ [(k, i)], by simp, by simpa [hne'] using hafter⟩
    · rintro ⟨before, after, heq, hafter⟩
      cases after using List.reverseRecOn with
      | nil =>
        obtain ⟨rfl, hlast⟩ := List.append_inj' heq rfl
        exact .inl (List.singleton_inj.1 hlast).symm
      | append_singleton after last =>
        rw [← List.cons_append, ← List.append_assoc] at heq
        obtain ⟨rfl, hlast⟩ := List.append_inj' heq rfl
        obtain rfl := List.singleton_inj.1 hlast
        simp only [List.map_append, List.mem_append, not_or, List.map_singleton,
          List.mem_singleton] at hafter
        exact .inr ⟨⟨before, after, rfl, hafter.1⟩, hafter.2⟩

omit [DecidableEq κ]

theorem lowest?_eq_none_iff : index.lowest? = none ↔ index.entries = [] := by
  rw [lowest?, List.min?_eq_none_iff, List.map_eq_nil_iff]

/-- No key has a smaller identifier. -/
theorem le_of_lowest? (h : index.lowest? = some id) {entry : κ × Int}
    (hentry : entry ∈ index.entries) : id ≤ entry.2 :=
  (List.min?_eq_some_iff.1 h).2 _ (List.mem_map_of_mem hentry)

/-- The smallest identifier is the identifier of some key. -/
theorem exists_mem_of_lowest? (h : index.lowest? = some id) :
    ∃ key, (key, id) ∈ index.entries := by
  obtain ⟨entry, hmem, rfl⟩ := List.mem_map.1 (List.min?_mem h)
  exact ⟨entry.1, hmem⟩

end AssetSeed.Index
