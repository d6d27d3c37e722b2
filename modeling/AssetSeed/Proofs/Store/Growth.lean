import AssetSeed.Proofs.Store.Requests

/-!
# Growth of collections

While only one collection grows, a draft that was refused goes on being refused, and for the same
reason, unless a record with its key has been created.

## Main definitions

* `MemoryStore.Grows` — nothing has changed but some collections, and those have only grown.
* `Kind.clashes` — the records that a draft would repeat.
* `Kind.mentions` — the kinds of the records that a draft refers to.

## Main statements

* `MemoryStore.Grows.of_grow` — a create that is accepted makes the collection of its kind grow.
* `MemoryStore.Spares.verdict_eq` — what a verdict depends on.
* `MemoryStore.Grows.verdict_eq` — refusals last.
-/

namespace AssetSeed

/-- Whether a draft of the kind would repeat the record. -/
def Kind.clashes : (kind : Kind) → kind.Draft → kind.Record → Bool
  | .group, d, r => r.name = d.name
  | .objectType, d, _ => nomatch d
  | .permission, d, r => r.name = d.name
  | .manufacturer, d, r => r.name = d.name || r.slug = d.slug
  | .role, d, r => r.name = d.name || r.slug = d.slug
  | .deviceType, d, r => r.model = d.model
  | .site, d, r => r.name = d.name || r.slug = d.slug
  | .ipPrefix, _, _ => false
  | .device, d, r => r.name = some d.name
  | .interface, _, _ => false
  | .address, d, r => r.address = d.address

/-- The kinds of the records that a draft refers to. -/
def Kind.mentions : Kind → List Kind
  | .deviceType => [.manufacturer]
  | .ipPrefix => [.site]
  | .device => [.site, .role, .deviceType]
  | .interface => [.device]
  | _ => []

namespace MemoryStore

variable {store old mid new : MemoryStore} {kind : Kind}

theorem isDuplicate_eq (draft : kind.Draft) :
    store.isDuplicate kind draft = (store.records kind).any (kind.clashes draft) := by
  cases kind with
  | objectType => exact draft.elim
  | ipPrefix | interface => exact (List.any_eq_false.2 fun _ _ => Bool.false_ne_true).symm
  | _ => rfl

theorem mention?_congr {other : Kind} (h : new.records other = old.records other)
    (id : Option Int) : new.mention? other id = old.mention? other id := by
  simp only [mention?, h]

theorem build_congr (h : ∀ other ∈ kind.mentions, new.records other = old.records other)
    (draft : kind.Draft) : new.build kind draft = old.build kind draft := by
  cases kind with
  | deviceType =>
    simp only [build, mention?_congr (h .manufacturer (by decide))]
  | ipPrefix =>
    simp only [build, mention?_congr (h .site (by decide))]
  | device =>
    simp only [build, mention?_congr (h .site (by decide)), mention?_congr (h .role (by decide)),
      mention?_congr (h .deviceType (by decide))]
  | interface =>
    have devices : new.devices = old.devices := h .device (by decide)
    simp only [build, devices]
  | objectType => exact draft.elim
  | _ => rfl

/-- No draft refers to records of its own kind. -/
theorem not_mem_singleton_of_mem_mentions {other : Kind} (h : other ∈ kind.mentions) :
    other ∉ [kind] := by
  revert h
  cases kind <;> cases other <;> decide

/-- Nothing that verdicts on drafts of the kind depend on has changed. -/
structure Spares (kind : Kind) (old new : MemoryStore) : Prop where
  records : ∀ other ∈ kind :: kind.mentions, new.records other = old.records other
  refusedNames : new.refusedNames = old.refusedNames

namespace Spares

theorem trans (first : Spares kind old mid) (second : Spares kind mid new) :
    Spares kind old new where
  records other h := (second.records other h).trans (first.records other h)
  refusedNames := second.refusedNames.trans first.refusedNames

theorem records_eq (h : Spares kind old new) : new.records kind = old.records kind :=
  h.records kind List.mem_cons_self

theorem verdict_eq (h : Spares kind old new) (draft : kind.Draft) :
    new.verdict kind draft = old.verdict kind draft := by
  have mentions : ∀ other ∈ kind.mentions, new.records other = old.records other :=
    fun other hother => h.records other (List.mem_cons_of_mem _ hother)
  simp only [verdict, refusal?, h.refusedNames, isDuplicate_eq, h.records_eq, build_congr mentions]

end Spares

/-! ## Growing -/

/-- Records have been added, and only to the collections of these kinds. -/
structure Grows (kinds : List Kind) (old new : MemoryStore) : Prop where
  records : ∀ kind, old.records kind <+: new.records kind
  others : ∀ other ∉ kinds, new.records other = old.records other
  refusedNames : new.refusedNames = old.refusedNames
  outages : new.outages = old.outages
  failingUpdates : new.failingUpdates = old.failingUpdates

namespace Grows

variable {kinds kinds' : List Kind}

theorem refl (store : MemoryStore) : Grows kinds store store :=
  ⟨fun _ => List.prefix_rfl, fun _ _ => rfl, rfl, rfl, rfl⟩

theorem append (first : Grows kinds old mid) (second : Grows kinds' mid new) :
    Grows (kinds ++ kinds') old new where
  records kind := (first.records kind).trans (second.records kind)
  others other h := by
    simp only [List.mem_append, not_or] at h
    exact (second.others other h.2).trans (first.others other h.1)
  refusedNames := second.refusedNames.trans first.refusedNames
  outages := second.outages.trans first.outages
  failingUpdates := second.failingUpdates.trans first.failingUpdates

theorem mono (h : Grows kinds old new) (subset : kinds ⊆ kinds') : Grows kinds' old new where
  records := h.records
  others other hother := h.others other fun hmem => hother (subset hmem)
  refusedNames := h.refusedNames
  outages := h.outages
  failingUpdates := h.failingUpdates

theorem trans (first : Grows kinds old mid) (second : Grows kinds mid new) :
    Grows kinds old new :=
  (first.append second).mono (List.append_subset.2 ⟨List.Subset.refl _, List.Subset.refl _⟩)

theorem of_counted (store : MemoryStore) : Grows kinds store store.counted where
  records _ := by simp only [records_counted, List.prefix_rfl]
  others _ _ := records_counted
  refusedNames := rfl
  outages := rfl
  failingUpdates := rfl

theorem of_grow (draft : kind.Draft) (record : Int → kind.Record) :
    Grows [kind] store (store.grow kind draft record) where
  records other := by
    by_cases h : other = kind
    · subst h
      simp
    · simp only [records_grow_of_ne h, List.prefix_rfl]
  others _ h := records_grow_of_ne (fun heq => h (List.mem_singleton.2 heq)) draft record
  refusedNames := refusedNames_grow draft record
  outages := outages_grow draft record
  failingUpdates := failingUpdates_grow draft record

theorem spares (h : Grows kinds old new) (apart : ∀ other ∈ kind :: kind.mentions, other ∉ kinds) :
    Spares kind old new where
  records other hother := h.others other (apart other hother)
  refusedNames := h.refusedNames

end Grows

/-! ## Refusals -/

/-- The three grounds of a refusal, in the order in which they are looked at. -/
theorem verdict_eq_some_iff {draft : kind.Draft} {e : StoreError} :
    store.verdict kind draft = some e ↔
      kind.draftKey draft ∈ store.refusedNames ∧
        e = refusal (kind.draftKey draft ++ " is not allowed") ∨
      kind.draftKey draft ∉ store.refusedNames ∧
        ((∃ r ∈ store.records kind, kind.clashes draft r) ∧
          e = refusal (kind.draftKey draft ++ " already exists") ∨
        (¬∃ r ∈ store.records kind, kind.clashes draft r) ∧ store.build kind draft = .error e) := by
  rw [verdict, refusal?, isDuplicate_eq]
  simp only [List.contains_iff_mem, List.any_eq_true]
  by_cases hname : kind.draftKey draft ∈ store.refusedNames
  · simpa [hname] using eq_comm
  · by_cases hclash : ∃ r ∈ store.records kind, kind.clashes draft r = true
    · simpa only [hname, hclash, if_true, if_false, true_and, false_and, not_true,
        not_false_eq_true, false_or, or_false, Option.some.injEq] using eq_comm
    · cases store.build kind draft <;> simp [hname, hclash]

/-- A draft that is refused for what it refers to would only repeat a record with its key. -/
theorem key_of_clashes {draft : kind.Draft} {e : StoreError} (h : store.build kind draft = .error e)
    {r : kind.Record} (hr : kind.clashes draft r) : kind.key? r = some (kind.draftKey draft) := by
  cases kind with
  | deviceType => exact congrArg some (of_decide_eq_true hr)
  | device => exact of_decide_eq_true hr
  | interface => cases hr
  | objectType => exact draft.elim
  | _ => cases h

theorem isRejected_of_build {draft : kind.Draft} {e : StoreError}
    (h : store.build kind draft = .error e) : e.isRejected = true := by
  cases kind with
  | deviceType | device | interface =>
    rw [build] at h
    split at h <;> cases h
    rfl
  | objectType => exact draft.elim
  | _ => cases h

theorem isRejected_of_verdict {draft : kind.Draft} {e : StoreError}
    (h : store.verdict kind draft = some e) : e.isRejected = true := by
  obtain ⟨-, rfl⟩ | ⟨-, ⟨-, rfl⟩ | ⟨-, hbuild⟩⟩ := verdict_eq_some_iff.1 h
  · rfl
  · rfl
  · exact isRejected_of_build hbuild

/-- A refusal lasts, unless a record with the key of the draft has been created. -/
theorem Grows.verdict_eq {kinds : List Kind} (h : Grows kinds old new)
    (apart : ∀ other ∈ kind.mentions, other ∉ kinds) {draft : kind.Draft} {e : StoreError}
    (refused : old.verdict kind draft = some e)
    (absent : ∀ r ∈ new.records kind, kind.key? r ≠ some (kind.draftKey draft)) :
    new.verdict kind draft = some e := by
  have mentions : ∀ other ∈ kind.mentions, new.records other = old.records other :=
    fun other hother => h.others other (apart other hother)
  rw [verdict_eq_some_iff] at refused ⊢
  rw [h.refusedNames, build_congr mentions]
  obtain hname | ⟨hname, ⟨⟨r, hr, hclash⟩, he⟩ | ⟨-, hbuild⟩⟩ := refused
  · exact .inl hname
  · exact .inr ⟨hname, .inl ⟨⟨r, (h.records kind).subset hr, hclash⟩, he⟩⟩
  · refine .inr ⟨hname, .inr ⟨?_, hbuild⟩⟩
    rintro ⟨r, hr, hclash⟩
    exact absent r hr (key_of_clashes hbuild hclash)

end MemoryStore

end AssetSeed
