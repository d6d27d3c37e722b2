import AssetSeed.NetworkMap

/-!
# The grammar of network maps

Which entries of a document name a segment or a host, said by their fields alone, and what a list
of entries comes to if they are gone through one by one.

## Main definitions

* `NetworkMap.Says` — what an object says of a key.
* `NetworkMap.Names` — an entry of a type, with its name and its address.
* `NetworkMap.NamesSegment`, `NetworkMap.NamesHost` — entries that are kept.
* `NetworkMap.Keeps` — the map that a list of entries comes to.

## Main statements

* `NetworkMap.segment?_eq_some_iff`, `NetworkMap.host?_eq_some_iff` — what becomes of an entry.
* `NetworkMap.keeps_iff` — what becomes of a list of entries.
* `NetworkMap.ofJson_grammar` — the map of a document.
-/

namespace AssetSeed.NetworkMap

/-- The last of the fields with the key is the one that counts. -/
def Says (entry : Json) (key : String) (value : Json) : Prop :=
  ∃ before after, entry = .object (before ++ (key, value) :: after) ∧ key ∉ after.map Prod.fst

/-- An object of the type with a name and an address, neither of them empty. -/
structure Names (type : String) (entry : Json) (name address : String) : Prop where
  typed : Says entry "type" (.text type)
  named : Says entry "name" (.text name)
  addressed : Says entry "address" (.text address)
  name_ne : name ≠ ""
  address_ne : address ≠ ""

def NamesSegment (entry : Json) (segment : Segment) : Prop :=
  ∃ address, Names "segment" entry segment.name address ∧
    Network.ofText? address.toList = some segment.network

def NamesHost (entry : Json) (host : Host) : Prop :=
  ∃ address, Names "host" entry host.name address ∧ host.address = HostAddress.classify address

/-- An entry that names neither a segment nor a host. -/
def Unrecognized (entry : Json) : Prop :=
  (∀ segment, ¬ NamesSegment entry segment) ∧ ∀ host, ¬ NamesHost entry host

/-- The map that entries come to, one after the other. -/
inductive Keeps : List Json → NetworkMap → Prop
  | nil : Keeps [] {}
  | segment {entry segment rest map} : NamesSegment entry segment → Keeps rest map →
      Keeps (entry :: rest) { map with segments := segment :: map.segments }
  | host {entry host rest map} : NamesHost entry host → Keeps rest map →
      Keeps (entry :: rest) { map with hosts := host :: map.hosts }
  | other {entry rest map} : Unrecognized entry → Keeps rest map → Keeps (entry :: rest) map

/-! ## Fields -/

theorem lastField?_eq_some_iff {key : String} {fields : List (String × Json)} {value : Json} :
    Json.lastField? key fields = some value ↔ Says (.object fields) key value := by
  rw [Json.lastField?, Option.map_eq_some_iff]
  constructor
  · rintro ⟨⟨found, _⟩, last, rfl⟩
    obtain ⟨same, after, before, split, others⟩ := List.find?_eq_some_iff_append.1 last
    obtain rfl : found = key := of_decide_eq_true same
    refine ⟨before.reverse, after.reverse, congrArg Json.object ?_, fun mem => ?_⟩
    · simpa using congrArg List.reverse split
    · obtain ⟨field, later, same⟩ := List.mem_map.1 mem
      exact absurd same (by simpa using others field (List.mem_reverse.1 later))
  · rintro ⟨before, after, split, absent⟩
    cases split
    refine ⟨(key, value), List.find?_eq_some_iff_append.2
      ⟨decide_eq_true rfl, after.reverse, before.reverse, by simp, fun field mem => ?_⟩, rfl⟩
    have mapped : field.1 ∈ after.map Prod.fst := List.mem_map_of_mem (List.mem_reverse.1 mem)
    simpa using ne_of_mem_of_not_mem mapped absent

theorem text?_eq_some_iff {value : Json} {s : String} : value.text? = some s ↔ value = .text s := by
  cases value <;> simp [Json.text?]

theorem someText?_eq_some_iff {value : Json} {s : String} :
    someText? value = some s ↔ value = .text s ∧ s ≠ "" := by
  cases value with
  | text t => grind [someText?, String.isEmpty_iff]
  | _ => simp [someText?]

theorem entry?_eq_some_iff {type : String} {entry : Json} {name address : String} :
    entry? type entry = some (name, address) ↔ Names type entry name address := by
  constructor
  · intro read
    cases entry with
    | object fields =>
      obtain ⟨found, readType, read⟩ := Option.bind_eq_some_iff.1 read
      obtain ⟨name', readName, read⟩ := Option.bind_eq_some_iff.1 read
      obtain ⟨address', readAddress, read⟩ := Option.bind_eq_some_iff.1 read
      obtain ⟨rfl, same⟩ := Option.ite_none_right_eq_some.1 read
      obtain ⟨rfl, rfl⟩ := Prod.ext_iff.1 (Option.some_inj.1 same)
      obtain ⟨_, typed, isText⟩ := Option.bind_eq_some_iff.1 readType
      obtain ⟨_, named, isName⟩ := Option.bind_eq_some_iff.1 readName
      obtain ⟨_, addressed, isAddress⟩ := Option.bind_eq_some_iff.1 readAddress
      obtain rfl := text?_eq_some_iff.1 isText
      obtain ⟨rfl, name_ne⟩ := someText?_eq_some_iff.1 isName
      obtain ⟨rfl, address_ne⟩ := someText?_eq_some_iff.1 isAddress
      exact ⟨lastField?_eq_some_iff.1 typed, lastField?_eq_some_iff.1 named,
        lastField?_eq_some_iff.1 addressed, name_ne, address_ne⟩
    | _ => cases read
  · rintro ⟨typed, named, addressed, name_ne, address_ne⟩
    have isObject : ∃ fields, entry = .object fields := by
      obtain ⟨before, after, split, -⟩ := typed
      exact ⟨_, split⟩
    obtain ⟨fields, rfl⟩ := isObject
    rw [← lastField?_eq_some_iff] at typed named addressed
    have isName : someText? (.text name) = some name := someText?_eq_some_iff.2 ⟨rfl, name_ne⟩
    have isAddress : someText? (.text address) = some address :=
      someText?_eq_some_iff.2 ⟨rfl, address_ne⟩
    simp [typed, entry?, named, addressed, isName, isAddress, Json.text?]

/-! ## Entries -/

theorem segment?_eq_some_iff {entry : Json} {segment : Segment} :
    segment? entry = some segment ↔ NamesSegment entry segment := by
  constructor
  · intro read
    obtain ⟨⟨name, address⟩, named, read⟩ := Option.bind_eq_some_iff.1 read
    obtain ⟨network, accepted, same⟩ := Option.bind_eq_some_iff.1 read
    cases same
    exact ⟨address, entry?_eq_some_iff.1 named, accepted⟩
  · rintro ⟨address, names, accepted⟩
    simp [segment?, entry?_eq_some_iff.2 names, accepted]

theorem host?_eq_some_iff {entry : Json} {host : Host} :
    host? entry = some host ↔ NamesHost entry host := by
  constructor
  · intro read
    obtain ⟨⟨name, address⟩, named, same⟩ := Option.bind_eq_some_iff.1 read
    cases same
    exact ⟨address, entry?_eq_some_iff.1 named, rfl⟩
  · obtain ⟨name, _⟩ := host
    rintro ⟨address, names, rfl⟩
    simp [host?, entry?_eq_some_iff.2 names]

/-- No entry names both, since it is of one type. -/
theorem NamesSegment.not_namesHost {entry : Json} {segment : Segment} {host : Host}
    (namesSegment : NamesSegment entry segment) : ¬ NamesHost entry host := by
  obtain ⟨_, names, -⟩ := namesSegment
  rintro ⟨_, names', -⟩
  obtain ⟨before, after, rfl, absent⟩ := names.typed
  have typed := lastField?_eq_some_iff.2 names.typed
  rw [lastField?_eq_some_iff.2 names'.typed] at typed
  exact absurd typed (by simp)

theorem unrecognized_iff {entry : Json} :
    Unrecognized entry ↔ segment? entry = none ∧ host? entry = none := by
  simp only [Unrecognized, ← segment?_eq_some_iff, ← host?_eq_some_iff,
    Option.eq_none_iff_forall_ne_some, ne_eq]

/-! ## Lists of entries -/

section

variable {entry : Json} {items : List Json}

theorem ofJson_cons_of_namesSegment {segment : Segment} (names : NamesSegment entry segment) :
    ofJson (.array (entry :: items)) =
      { ofJson (.array items) with segments := segment :: (ofJson (.array items)).segments } := by
  have host : host? entry = none := Option.eq_none_iff_forall_ne_some.2 fun _ kept =>
    names.not_namesHost (host?_eq_some_iff.1 kept)
  simp [ofJson, entries, segment?_eq_some_iff.2 names, host]

theorem ofJson_cons_of_namesHost {host : Host} (names : NamesHost entry host) :
    ofJson (.array (entry :: items)) =
      { ofJson (.array items) with hosts := host :: (ofJson (.array items)).hosts } := by
  have segment : segment? entry = none := Option.eq_none_iff_forall_ne_some.2 fun _ kept =>
    (segment?_eq_some_iff.1 kept).not_namesHost names
  simp [ofJson, entries, host?_eq_some_iff.2 names, segment]

theorem ofJson_cons_of_unrecognized (unrecognized : Unrecognized entry) :
    ofJson (.array (entry :: items)) = ofJson (.array items) := by
  obtain ⟨segment, host⟩ := unrecognized_iff.1 unrecognized
  simp [ofJson, entries, segment, host]

/-- Every list of entries comes to a map, and to no other. -/
theorem keeps_iff {map : NetworkMap} : Keeps items map ↔ ofJson (.array items) = map := by
  constructor
  · intro keeps
    induction keeps with
    | nil => rfl
    | segment names _ ih => rw [ofJson_cons_of_namesSegment names, ih]
    | host names _ ih => rw [ofJson_cons_of_namesHost names, ih]
    | other unrecognized _ ih => rw [ofJson_cons_of_unrecognized unrecognized, ih]
  · rintro rfl
    induction items with
    | nil => exact .nil
    | cons entry rest ih =>
      by_cases segment : ∃ segment, NamesSegment entry segment
      · obtain ⟨_, names⟩ := segment
        rw [ofJson_cons_of_namesSegment names]
        exact ih.segment names
      by_cases host : ∃ host, NamesHost entry host
      · obtain ⟨_, names⟩ := host
        rw [ofJson_cons_of_namesHost names]
        exact ih.host names
      · have unrecognized : Unrecognized entry := ⟨not_exists.1 segment, not_exists.1 host⟩
        rw [ofJson_cons_of_unrecognized unrecognized]
        exact ih.other unrecognized

end

theorem ofJson_append (a b : List Json) :
    ofJson (.array (a ++ b)) =
      { segments := (ofJson (.array a)).segments ++ (ofJson (.array b)).segments
        hosts := (ofJson (.array a)).hosts ++ (ofJson (.array b)).hosts } := by
  simp [ofJson, entries]

theorem ofJson_of_unrecognized {items : List Json} (junk : ∀ entry ∈ items, Unrecognized entry) :
    ofJson (.array items) = {} := by
  induction items with
  | nil => rfl
  | cons entry rest ih =>
    obtain ⟨first, junk⟩ := List.forall_mem_cons.1 junk
    rw [ofJson_cons_of_unrecognized first, ih junk]

/-- A document comes to the segments and the hosts that its entries name, in their order. What is
put in between makes no difference unless it names something itself. -/
theorem ofJson_grammar :
    (∀ items map, ofJson (.array items) = map ↔ Keeps items map) ∧
    (∀ document map, (∀ items, document ≠ .array items) →
      (ofJson document = map ↔ Keeps [document] map)) ∧
    (∀ a b, ofJson (.array (a ++ b)) =
      { segments := (ofJson (.array a)).segments ++ (ofJson (.array b)).segments
        hosts := (ofJson (.array a)).hosts ++ (ofJson (.array b)).hosts }) ∧
    ∀ before junk after, (∀ entry ∈ junk, Unrecognized entry) →
      ofJson (.array (before ++ junk ++ after)) = ofJson (.array (before ++ after)) := by
  refine ⟨fun items map => keeps_iff.symm, fun document map single => ?_, ofJson_append,
    fun before junk after unrecognized => ?_⟩
  · rw [keeps_iff]
    cases document with
    | array items => exact absurd rfl (single items)
    | _ => exact Iff.rfl
  · rw [ofJson_append, ofJson_append, ofJson_append, ofJson_of_unrecognized unrecognized]
    simp

/-- A segment with a bit behind its length, a host with a number for a name, and a text are passed
over, and do not hide what stands around them. -/
theorem ofJson_grammar_mixed :
    let office : Json := .object
      [("type", .text "segment"), ("name", .text "Office"), ("address", .text "10.0.0.0/24")]
    let camera : Json := .object
      [("name", .text "cam"), ("address", .text "aa:bb:cc:dd:ee:ff"), ("type", .text "host")]
    let junk : List Json := [
      .object [("type", .text "segment"), ("name", .text "Bad"), ("address", .text "10.0.0.5/24")],
      .object [("type", .text "host"), ("name", .integer 5), ("address", .text "10.0.0.5")],
      .text "just a string"]
    (∀ entry ∈ junk, Unrecognized entry) ∧
      ofJson (.array ([office] ++ junk ++ [camera])) = ofJson (.array [office, camera]) := by
  intro office camera junk
  have passed : ∀ entry ∈ junk, segment? entry = none ∧ host? entry = none := by decide +kernel
  have unrecognized : ∀ entry ∈ junk, Unrecognized entry :=
    fun entry mem => unrecognized_iff.2 (passed entry mem)
  exact ⟨unrecognized, ofJson_grammar.2.2.2 [office] junk [camera] unrecognized⟩

end AssetSeed.NetworkMap
