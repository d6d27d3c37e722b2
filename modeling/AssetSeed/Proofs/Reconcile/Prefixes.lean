import AssetSeed.Proofs.Address.Network
import AssetSeed.Proofs.Reconcile.Indices
import AssetSeed.Proofs.Stage.Missing
import AssetSeed.Reconcile.Network

/-!
# Which prefixes are asked for

A segment is looked up and created under the written form of its network. Two segments have one key
if and only if their networks are the same, however they have been written in the map. So one prefix
is asked for where several segments have one network, and none where the network has been listed.

## Main definitions

* `Reconcile.prefixKey`, `Reconcile.prefixItem` — what a segment asks for, under its key.
* `Reconcile.Chosen` — segments that are asked for in view of what is listed.
* `Reconcile.Prefixing` — the law of what is said of prefixes.

## Main statements

* `Stage.exists_mem_missing` — an item that is not missing is there, or another one has its key.
* `Reconcile.prefixKey_eq_iff` — keys are networks.
* `Reconcile.prefixKey_canonical` — from what is written in a map to what is asked for.
-/

namespace AssetSeed

namespace Stage

variable {kind : Kind} {existing : NameIndex} {attempted : List String}
  {wanted : List (String × kind.Draft)}

theorem missing_sublist (kind : Kind) (existing : NameIndex) (attempted : List String)
    (wanted : List (String × kind.Draft)) :
    (missing kind existing attempted wanted).Sublist wanted := by
  induction wanted generalizing attempted with
  | nil => exact .slnil
  | cons item rest ih =>
    rw [missing]
    split
    · exact (ih _).cons item
    · exact (ih _).cons_cons item

theorem of_mem_missing {item : String × kind.Draft}
    (mem : item ∈ missing kind existing attempted wanted) :
    existing.contains item.1 = false ∧ item.1 ∉ attempted := by
  induction wanted generalizing attempted with
  | nil => cases mem
  | cons first rest ih =>
    rw [missing] at mem
    split at mem
    · exact ih mem
    · next due =>
      simp only [Bool.or_eq_true, not_or, Bool.not_eq_true, List.contains_iff_mem] at due
      obtain rfl | mem := List.mem_cons.1 mem
      · exact ⟨due.1.2, due.2⟩
      · exact ⟨(ih mem).1, fun before => (ih mem).2 (List.mem_cons_of_mem _ before)⟩

theorem pairwise_missing (kind : Kind) (existing : NameIndex) (attempted : List String)
    (wanted : List (String × kind.Draft)) :
    (missing kind existing attempted wanted).Pairwise fun item other => item.1 ≠ other.1 := by
  induction wanted generalizing attempted with
  | nil => exact .nil
  | cons item rest ih =>
    rw [missing]
    split
    · exact ih _
    · refine .cons (fun other mem same => ?_) (ih _)
      exact (of_mem_missing mem).2 (same ▸ List.mem_cons_self)

/-- An item whose key is neither there nor empty is missing, or another one with its key is. -/
theorem exists_mem_missing (kind : Kind) {wanted : List (String × kind.Draft)}
    {item : String × kind.Draft} (mem : item ∈ wanted) (named : item.1.isEmpty = false)
    (absent : existing.contains item.1 = false) (first : item.1 ∉ attempted) :
    ∃ other ∈ missing kind existing attempted wanted, other.1 = item.1 := by
  induction wanted generalizing attempted with
  | nil => cases mem
  | cons head rest ih =>
    rw [missing]
    by_cases same : head.1 = item.1
    · have due : (head.1.isEmpty || existing.contains head.1 || attempted.contains head.1) =
          false := by
        simp [same, named, absent, first]
      rw [if_neg (Bool.eq_false_iff.1 due)]
      exact ⟨head, List.mem_cons_self, same⟩
    · have later : item ∈ rest := (List.mem_cons.1 mem).resolve_left fun h => same (h ▸ rfl)
      split
      · exact ih later first
      · have first' := List.not_mem_cons_of_ne_of_not_mem (Ne.symm same) first
        obtain ⟨other, mem, key⟩ := ih later first'
        exact ⟨other, List.mem_cons_of_mem _ mem, key⟩

end Stage

namespace Reconcile

/-! ## Keys of segments -/

/-- The key under which a network is looked up and created. -/
def prefixKey (n : Network) : String :=
  String.ofList n.text

/-- The prefix that a segment asks for, with its key. -/
def prefixItem (inventory : Inventory) (segment : Segment) : String × Draft.IpPrefix :=
  (prefixKey segment.network, {
    cidr := prefixKey segment.network
    site := inventory.sites.lowest?
    description := segment.name })

theorem ensurePrefixes_eq (segments : List Segment) (inventory : Inventory) :
    ensurePrefixes segments inventory =
      Stage.ensure .ipPrefix fun _ => segments.map (prefixItem inventory) :=
  rfl

theorem prefixKey_injective : Function.Injective prefixKey := fun _ _ h =>
  Network.text_injective (String.ofList_injective h)

/-- Keys are networks: they are the same where the addresses are. -/
theorem prefixKey_eq_iff {n n' : Network} :
    prefixKey n = prefixKey n' ↔ ∀ ip, n.Contains ip ↔ n'.Contains ip := by
  refine ⟨fun h ip => ?_, fun h => congrArg prefixKey (Network.eq_of_contains_iff h)⟩
  rw [prefixKey_injective h]

theorem isEmpty_prefixKey (n : Network) : (prefixKey n).isEmpty = false := by
  simp [prefixKey, Network.text]

/-! ## Prefixes that are asked for -/

/-- Of the segments, one for each network whose key has not been listed. -/
structure Chosen (segments : List Segment) (listed : List Record.IpPrefix)
    (chosen : List Segment) : Prop where
  sublist : chosen.Sublist segments
  distinct : chosen.Pairwise fun segment other =>
    ¬∀ ip, segment.network.Contains ip ↔ other.network.Contains ip
  absent : ∀ segment ∈ chosen, ∀ r ∈ listed, r.cidr ≠ prefixKey segment.network
  complete : ∀ segment ∈ segments, (∃ r ∈ listed, r.cidr = prefixKey segment.network) ∨
    ∃ other ∈ chosen, ∀ ip, other.network.Contains ip ↔ segment.network.Contains ip

/-- The law of what is said of prefixes: they are listed, and then one is asked for in each network
that has not been listed, up to the first failure. -/
def Prefixing (segments : List Segment) (inventory : Inventory) (said : Transcript) : Prop :=
  (∃ e, said = [⟨.list .ipPrefix, .error e⟩]) ∨ ∃ listed own chosen,
    said = ⟨.list .ipPrefix, .ok listed⟩ :: own ∧ Chosen segments listed chosen ∧
    Stage.Supplies .ipPrefix (chosen.map fun segment => (prefixItem inventory segment).2) own

theorem contains_listed {listed : List Record.IpPrefix} {key : String} :
    (Index.ofList (Stage.keyPairs .ipPrefix listed)).contains key = true ↔
      ∃ r ∈ listed, r.cidr = key := by
  simp [Stage.contains_keyPairs, Kind.key?]

theorem exists_chosen (segments : List Segment) (inventory : Inventory)
    (listed : List Record.IpPrefix) : ∃ chosen, Chosen segments listed chosen ∧
      Stage.missing .ipPrefix (Index.ofList (Stage.keyPairs .ipPrefix listed)) []
        (segments.map (prefixItem inventory)) = chosen.map (prefixItem inventory) := by
  obtain ⟨chosen, sublist, eq⟩ := List.sublist_map_iff.1
    (Stage.missing_sublist .ipPrefix (Index.ofList (Stage.keyPairs .ipPrefix listed)) []
      (segments.map (prefixItem inventory)))
  refine ⟨chosen, ⟨sublist, ?_, fun segment mem r hr same => ?_, fun segment mem => ?_⟩, eq⟩
  · have distinct : (chosen.map (prefixItem inventory)).Pairwise fun item other =>
        item.1 ≠ other.1 := eq ▸ Stage.pairwise_missing .ipPrefix _ _ _
    exact (List.pairwise_map.1 distinct).imp fun ne same => ne (prefixKey_eq_iff.2 same)
  · have due : prefixItem inventory segment ∈ chosen.map (prefixItem inventory) :=
      List.mem_map_of_mem mem
    have absent := (Stage.of_mem_missing (eq ▸ due)).1
    exact Bool.eq_false_iff.1 absent (contains_listed.2 ⟨r, hr, same⟩)
  · by_cases there : ∃ r ∈ listed, r.cidr = prefixKey segment.network
    · exact .inl there
    · have absent := Bool.eq_false_iff.2 fun h => there (contains_listed.1 h)
      have wanted : prefixItem inventory segment ∈ segments.map (prefixItem inventory) :=
        List.mem_map_of_mem mem
      obtain ⟨other, due, key⟩ := Stage.exists_mem_missing .ipPrefix wanted
        (isEmpty_prefixKey segment.network) absent List.not_mem_nil
      rw [eq] at due
      obtain ⟨other, mem, rfl⟩ := List.mem_map.1 due
      exact .inr ⟨other, mem, prefixKey_eq_iff.1 key⟩

theorem prefixing_ensurePrefixes (segments : List Segment) (inventory : Inventory)
    (report : StageReport) : (ensurePrefixes segments inventory).Ensures Conduct.recorded
      (fun _ _ said => Prefixing segments inventory said) report [] := by
  rw [ensurePrefixes_eq]
  refine (Stage.supplies_ensure report []).mono ?_
  rintro _ _ _ (⟨e, rfl⟩ | ⟨listed, own, rfl, supplies⟩)
  · exact .inl ⟨e, rfl⟩
  · obtain ⟨chosen, one, eq⟩ := exists_chosen segments inventory listed
    rw [eq, List.map_map] at supplies
    exact .inr ⟨listed, own, chosen, rfl, one, supplies⟩

open Network (ofText? Denotes)

/-- What is read as a network has no bit set behind its length, and is read again from its written
form. Two texts that are read as networks have the same key if and only if the networks have the
same addresses. A network is read from the texts that denote it and from no others, so nothing is
read where a text writes an address with a bit set behind the length. Whoever answers, one prefix is
asked for in each network of a map that has not been listed. -/
theorem prefixKey_canonical :
    (∀ s n, ofText? s = some n →
      (∀ i < n.address.width - n.length, n.address.toNat.testBit i = false) ∧
        ofText? n.text = some n) ∧
    (∀ s s' n n', ofText? s = some n → ofText? s' = some n' →
      (prefixKey n = prefixKey n' ↔ ∀ ip, n.Contains ip ↔ n'.Contains ip)) ∧
    (∀ s n, ofText? s = some n ↔ Denotes s n.address n.length) ∧
    (∀ s address length, Denotes s address length →
      (∃ i < address.width - length, address.toNat.testBit i = true) → ofText? s = none) ∧
    ∀ {σ : Type} (respond : Responder StoreProtocol σ) (start : σ) (segments : List Segment)
      (inventory : Inventory), Prefixing segments inventory
        (((ensurePrefixes segments inventory).perform .networkMap).exchanges respond start) := by
  refine ⟨fun _ n _ => ⟨fun i lt => n.testBit_address lt, n.ofText?_text⟩,
    fun _ _ _ _ _ _ => prefixKey_eq_iff, fun _ _ => Network.ofText?_eq_some_iff,
    fun _ _ _ => Network.ofText?_eq_none, fun respond start segments inventory => ?_⟩
  exact (prefixing_ensurePrefixes segments inventory { stage := .networkMap }).exchanges start

/-- A network with a netmask and white space around it, its first half, and an address that is not
its first one. -/
theorem prefixKey_canonical_netmask :
    ∃ n half, ofText? " 10.0.0.0/255.255.255.0\t".toList = some n ∧
      ofText? "10.0.0.0/25".toList = some half ∧
      Denotes " 10.0.0.0/255.255.255.0\t".toList n.address n.length ∧
      (∀ i < n.address.width - n.length, n.address.toNat.testBit i = false) ∧
      ofText? n.text = some n ∧
      (prefixKey n = prefixKey half ↔ ∀ ip, n.Contains ip ↔ half.Contains ip) ∧
      Denotes "10.0.0.5/24".toList (.v4 ⟨10, 0, 0, 5⟩) 24 ∧
      ofText? "10.0.0.5/24".toList = none := by
  obtain ⟨n, masked⟩ : ∃ n, ofText? " 10.0.0.0/255.255.255.0\t".toList = some n :=
    Option.isSome_iff_exists.1 (by decide +kernel)
  obtain ⟨half, plain⟩ : ∃ n, ofText? "10.0.0.0/25".toList = some n :=
    Option.isSome_iff_exists.1 (by decide +kernel)
  have written : Network.Writes "10.0.0.5/24".toList (.v4 ⟨10, 0, 0, 5⟩) 24 :=
    Network.readParts?_eq_some_iff.1 (by decide +kernel)
  obtain ⟨networks, keys, texts, strict, -⟩ := prefixKey_canonical
  obtain ⟨unset, again⟩ := networks _ n masked
  exact ⟨n, half, masked, plain, (texts _ n).1 masked, unset, again,
    keys _ _ n half masked plain, written.denotes,
    strict _ _ _ written.denotes ⟨0, by decide, by decide⟩⟩

end Reconcile

end AssetSeed
