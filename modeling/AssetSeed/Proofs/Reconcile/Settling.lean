import AssetSeed.Proofs.Reconcile.Indices
import AssetSeed.Proofs.Stage.Run
import AssetSeed.Proofs.Store.Growth
import Mathlib.Data.List.Basic

/-!
# Settled wants

A stage that creates what is missing leaves its want settled: each key is in the collection, or its
draft is refused. A stage that finds its want settled asks again for what was refused, is refused
again on the same grounds, and changes nothing.

## Main definitions

* `Stage.outstanding` — the keys that a stage asks for.
* `Want` — keys, and a draft for each.
* `Want.Settled`, `Want.refusals` — a want that can get no more, and why.
* `Stage.Serves` — what a stage that asks for some keys does.
* `MemoryStore.Undisturbed` — no faults but refused names.
* `MemoryStore.Unchanged` — nothing but the count of creates has changed.

## Main statements

* `Stage.serves_createMissing` — the loop over a want, in terms of the database that it leaves.
* `Stage.ensure_run` — the stage.
-/

namespace AssetSeed

/-! ## Keys that are asked for -/

/-- The keys that a loop over `keys` asks for, each once, in order. -/
def Stage.outstanding (existing : NameIndex) (attempted : List String) : List String → List String
  | [] => []
  | key :: rest =>
    if key.isEmpty || existing.contains key || attempted.contains key then
      outstanding existing attempted rest
    else key :: outstanding existing (key :: attempted) rest

namespace Stage

variable {existing later : NameIndex} {attempted : List String} {keys : List String} {key : String}

theorem not_contains_of_mem_outstanding (h : key ∈ outstanding existing attempted keys) :
    existing.contains key = false ∧ key ∉ attempted := by
  induction keys generalizing attempted with
  | nil => cases h
  | cons first rest ih =>
    rw [outstanding] at h
    split at h
    · exact ih h
    · next hfirst =>
      simp only [Bool.or_eq_true, not_or, Bool.not_eq_true, List.contains_iff_mem] at hfirst
      obtain rfl | h := List.mem_cons.1 h
      · exact ⟨hfirst.1.2, hfirst.2⟩
      · obtain ⟨hexisting, hattempted⟩ := ih h
        exact ⟨hexisting, fun hmem => hattempted (List.mem_cons_of_mem _ hmem)⟩

/-- A loop passes over the keys that are there. -/
theorem outstanding_filter_missing : outstanding existing attempted
    (keys.filter fun key => !existing.contains key) = outstanding existing attempted keys := by
  induction keys generalizing attempted with
  | nil => rfl
  | cons key rest ih =>
    cases hkey : existing.contains key with
    | true => simp [outstanding, hkey, ih]
    | false => simp [outstanding, hkey, ih]

/-- What is outstanding later is what was outstanding before, without what has come in between. -/
theorem outstanding_filter (le : ∀ key, existing.contains key → later.contains key)
    {attempted' : List String}
    (same : ∀ key, later.contains key = false → (key ∈ attempted' ↔ key ∈ attempted)) :
    outstanding later attempted' keys =
      (outstanding existing attempted keys).filter fun key => !later.contains key := by
  induction keys generalizing attempted attempted' with
  | nil => rfl
  | cons key rest ih =>
    have agree : later.contains key = false → attempted'.contains key = attempted.contains key :=
      fun h => by rw [Bool.eq_iff_iff, List.contains_iff_mem, List.contains_iff_mem, same key h]
    have missing : later.contains key = false → existing.contains key = false :=
      fun h => Bool.eq_false_iff.2 fun hexisting => by simp [le key hexisting] at h
    rw [outstanding, outstanding]
    by_cases hskip : key.isEmpty || existing.contains key || attempted.contains key
    · have hskip' : key.isEmpty || later.contains key || attempted'.contains key := by
        cases hlater : later.contains key with
        | true => simp
        | false => rwa [agree hlater, ← missing hlater]
      rw [if_pos hskip, if_pos hskip']
      exact ih same
    · rw [if_neg hskip]
      cases hlater : later.contains key with
      | true =>
        rw [if_pos (by simp), List.filter_cons_of_neg (by simp [hlater])]
        refine ih fun other hother => ?_
        have hne : other ≠ key := fun heq => by simp [heq, hlater] at hother
        simpa [hne] using same other hother
      | false =>
        have hkeep : ¬(key.isEmpty || false || attempted'.contains key) := by
          rwa [agree hlater, ← missing hlater]
        rw [if_neg hkeep, List.filter_cons_of_pos (by simp [hlater])]
        refine congrArg (key :: ·) (ih fun other hother => ?_)
        simpa using or_congr_right (same other hother)

end Stage

namespace MemoryStore

variable {store old mid new : MemoryStore} {kind : Kind}

/-- The index of a collection. -/
def index (store : MemoryStore) (kind : Kind) : NameIndex :=
  Index.ofList (Stage.keyPairs kind (store.records kind))

theorem contains_index {key : String} : (store.index kind).contains key = true ↔
    ∃ r ∈ store.records kind, kind.key? r = some key :=
  Stage.contains_keyPairs

/-- A listing that does not fail shows the index of the collection as it is then. -/
theorem index_of_list_ok {records : List kind.Record}
    (h : respond (.list kind) store = (.ok records, new)) :
    Index.ofList (Stage.keyPairs kind records) = new.index kind := by
  have listed : records = new.records kind := by simpa using list_of_ok h
  rw [listed, index]

theorem index_congr (h : new.records kind = old.records kind) :
    new.index kind = old.index kind := by
  simp only [index, h]

theorem Grows.contains_index {kinds : List Kind} (h : Grows kinds old new) {key : String}
    (hkey : (old.index kind).contains key = true) : (new.index kind).contains key = true := by
  rw [MemoryStore.contains_index] at hkey ⊢
  obtain ⟨r, hr, hkey⟩ := hkey
  exact ⟨r, (h.records kind).subset hr, hkey⟩

/-- Nothing but the count of creates has changed. -/
def Unchanged (old new : MemoryStore) : Prop :=
  ∃ createCalls, new = { old with createCalls }

namespace Unchanged

theorem refl (store : MemoryStore) : Unchanged store store :=
  ⟨store.createCalls, rfl⟩

theorem trans (first : Unchanged old mid) (second : Unchanged mid new) : Unchanged old new := by
  obtain ⟨_, rfl⟩ := first
  obtain ⟨calls, rfl⟩ := second
  exact ⟨calls, rfl⟩

theorem counted (store : MemoryStore) : Unchanged store store.counted :=
  ⟨_, rfl⟩

theorem records (h : Unchanged old new) (kind : Kind) : new.records kind = old.records kind := by
  obtain ⟨_, rfl⟩ := h
  cases kind <;> rfl

theorem spares (h : Unchanged old new) (kind : Kind) : Spares kind old new where
  records other _ := h.records other
  refusedNames := by
    obtain ⟨_, rfl⟩ := h
    rfl

end Unchanged

/-- No listing and no update fails. Names may still be refused. -/
structure Undisturbed (store : MemoryStore) : Prop where
  outage : ∀ kind, store.outage kind = .times 0
  failingUpdates : store.failingUpdates = false

theorem Undisturbed.list_eq (quiet : Undisturbed store) (kind : Kind) :
    respond (.list kind) store = (.ok (store.records kind), store) := by
  have listed := list_of_outage (quiet.outage kind) fun _ => true
  rwa [List.filter_true] at listed

theorem Grows.undisturbed {kinds : List Kind} (h : Grows kinds old new) (quiet : Undisturbed old) :
    Undisturbed new where
  outage kind := by simpa only [MemoryStore.outage, h.outages] using quiet.outage kind
  failingUpdates := by simpa only [h.failingUpdates] using quiet.failingUpdates

end MemoryStore

open MemoryStore (Undisturbed Unchanged Grows Spares)

/-! ## Wants -/

/-- Keys of records that are wanted, and a draft for each. -/
structure Want (kind : Kind) where
  keys : List String
  draft : String → kind.Draft
  draftKey : ∀ key, kind.draftKey (draft key) = key

namespace Want

variable {kind : Kind} (want : Want kind) {store old new : MemoryStore}

def outstanding (store : MemoryStore) : List String :=
  Stage.outstanding (store.index kind) [] want.keys

/-- How the key is refused, if it is neither in the collection nor accepted. -/
def rejection? (store : MemoryStore) (key : String) : Option Rejection :=
  if (store.index kind).contains key then none
  else (store.verdict kind (want.draft key)).map fun error => ⟨key, error⟩

def refusals (store : MemoryStore) : List Rejection :=
  (want.outstanding store).filterMap (want.rejection? store)

/-- Every key that is not in the collection is refused. -/
def Settled (store : MemoryStore) : Prop :=
  ∀ key ∈ want.outstanding store, (store.verdict kind (want.draft key)).isSome

/-- The report of a stage that has settled the want. -/
def report (name : StageName) (created : Nat) (store : MemoryStore) : StageReport :=
  { stage := name, created, rejections := want.refusals store }

variable {want}

theorem rejection?_eq (h : Spares kind old new) (key : String) :
    want.rejection? new key = want.rejection? old key := by
  simp only [rejection?, MemoryStore.index_congr h.records_eq, h.verdict_eq]

theorem refusals_eq (h : Spares kind old new) : want.refusals new = want.refusals old := by
  simp only [refusals, outstanding, MemoryStore.index_congr h.records_eq, rejection?_eq h]

theorem Settled.mono (settled : want.Settled old) (h : Spares kind old new) :
    want.Settled new := by
  intro key hkey
  simp only [outstanding, MemoryStore.index_congr h.records_eq] at hkey
  simpa only [h.verdict_eq] using settled key hkey

end Want

/-! ## The loop -/

namespace Stage

open MemoryStore (respond)

variable {kind : Kind} {store : MemoryStore}

theorem runWith_attempt_of_refused {draft : kind.Draft} {e : StoreError}
    (h : store.verdict kind draft = some e) (key : String) (report : StageReport) :
    (attempt kind key draft).runWith respond report store =
      ((.ok (), { report with rejections := report.rejections ++ [⟨key, e⟩] }), store.counted) := by
  have rejected := MemoryStore.isRejected_of_verdict h
  rw [attempt, runWith_ask_bind, MemoryStore.respond_create_of_verdict h]
  exact runWith_tolerate respond rejected key report store.counted

theorem exists_runWith_attempt {draft : kind.Draft} (h : store.verdict kind draft = none)
    (key : String) (report : StageReport) :
    ∃ record, store.build kind draft = .ok record ∧
      (attempt kind key draft).runWith respond report store =
        ((.ok (), { report with created := report.created + 1 }),
          store.grow kind draft record) := by
  obtain ⟨record, hbuild, answer⟩ := MemoryStore.exists_respond_create_eq_grow h
  refine ⟨record, hbuild, ?_⟩
  rw [attempt, runWith_ask_bind, answer]
  rfl

/-- What a loop that asked for `keys` leaves: each of them is in the collection or refused. -/
structure Completed (want : Want kind) (keys : List String) (old new : MemoryStore) : Prop where
  grows : Grows [kind] old new
  only : ∀ key, (new.index kind).contains key →
    (old.index kind).contains key ∨ key ∈ keys
  settled : ∀ key ∈ keys,
    (new.index kind).contains key ∨ (new.verdict kind (want.draft key)).isSome

/-- A turn in which the draft is refused. -/
theorem Completed.cons_of_refused {want : Want kind} {key : String} {keys : List String}
    {new : MemoryStore} {e : StoreError} (h : Completed want keys store.counted new)
    (refused : store.verdict kind (want.draft key) = some e)
    (absent : (store.index kind).contains key = false) (once : key ∉ keys) :
    Completed want (key :: keys) store new ∧ want.rejection? new key = some ⟨key, e⟩ := by
  have index_counted : store.counted.index kind = store.index kind :=
    MemoryStore.index_congr MemoryStore.records_counted
  have absent' : (new.index kind).contains key = false := by
    refine Bool.eq_false_iff.2 fun hcontains => ?_
    obtain hold | hmem := h.only key hcontains
    · rw [index_counted, absent] at hold
      cases hold
    · exact once hmem
  have grows : Grows [kind] store new := (Grows.of_counted store).trans h.grows
  have verdict : new.verdict kind (want.draft key) = some e := by
    refine grows.verdict_eq (fun _ => MemoryStore.not_mem_singleton_of_mem_mentions) refused
      fun r hr hkey => ?_
    rw [want.draftKey] at hkey
    simp [MemoryStore.contains_index.2 ⟨r, hr, hkey⟩] at absent'
  refine ⟨⟨grows, fun other hother => ?_, ?_⟩, by simp [Want.rejection?, absent', verdict]⟩
  · rw [← index_counted]
    exact (h.only other hother).imp_right (List.mem_cons_of_mem _)
  · intro other hother
    obtain rfl | hother := List.mem_cons.1 hother
    · exact .inr (by simp [verdict])
    · exact h.settled other hother

theorem contains_index_grow_self {draft : kind.Draft} {record : Int → kind.Record}
    (made : store.build kind draft = .ok record) :
    ((store.grow kind draft record).index kind).contains (kind.draftKey draft) = true := by
  have created : record (store.lastId + 1) ∈ (store.grow kind draft record).records kind := by
    simp
  exact MemoryStore.contains_index.2 ⟨_, created, (MemoryStore.id_key_of_build made _).2⟩

theorem contains_index_grow {draft : kind.Draft} {record : Int → kind.Record}
    (made : store.build kind draft = .ok record) {key : String}
    (h : ((store.grow kind draft record).index kind).contains key = true) :
    (store.index kind).contains key = true ∨ key = kind.draftKey draft := by
  obtain ⟨r, hr, hkey⟩ := MemoryStore.contains_index.1 h
  rw [MemoryStore.records_grow] at hr
  obtain hr | hr := List.mem_append.1 hr
  · exact .inl (MemoryStore.contains_index.2 ⟨r, hr, hkey⟩)
  · rw [List.mem_singleton.1 hr, (MemoryStore.id_key_of_build made _).2] at hkey
    cases hkey
    exact .inr rfl

/-- A turn in which the draft is accepted. -/
theorem Completed.cons_of_accepted {want : Want kind} {key : String} {keys : List String}
    {new : MemoryStore} {draft : kind.Draft} {record : Int → kind.Record}
    (h : Completed want keys (store.grow kind draft record) new)
    (made : store.build kind draft = .ok record) (draftKey : kind.draftKey draft = key) :
    Completed want (key :: keys) store new ∧ want.rejection? new key = none := by
  have present : (new.index kind).contains key = true := by
    rw [← draftKey]
    exact h.grows.contains_index (contains_index_grow_self made)
  refine ⟨⟨(Grows.of_grow draft record).trans h.grows, fun other hother => ?_, ?_⟩,
    by simp [Want.rejection?, present]⟩
  · obtain hmem | hmem := h.only other hother
    · obtain hmem | rfl := contains_index_grow made hmem
      · exact .inl hmem
      · exact .inr (draftKey ▸ List.mem_cons_self)
    · exact .inr (List.mem_cons_of_mem _ hmem)
  · intro other hother
    obtain rfl | hother := List.mem_cons.1 hother
    · exact .inl present
    · exact h.settled other hother

/-- The drafts are judged as those of the want are. -/
def Judged (want : Want kind) (wanted : List (String × kind.Draft)) : Prop :=
  ∀ item ∈ wanted, kind.draftKey item.2 = item.1 ∧
    ∀ store : MemoryStore, store.verdict kind item.2 = store.verdict kind (want.draft item.1)

/-- The stage goes through. Its report and the database that it leaves tell what has come of the
keys. If each of them is refused at the start, nothing has happened. -/
def Serves (want : Want kind) (keys : List String) (stage : Stage Unit) (report : StageReport)
    (store : MemoryStore) : Prop :=
  ∃ created new, stage.runWith respond report store =
      ((.ok (), { report with
        created := report.created + created
        rejections := report.rejections ++ keys.filterMap (want.rejection? new) }), new) ∧
    Completed want keys store new ∧
    ((∀ key ∈ keys, (store.verdict kind (want.draft key)).isSome) →
      created = 0 ∧ Unchanged store new)

section Turns

variable {want : Want kind} {key : String} {keys : List String} {draft : kind.Draft}
  {rest : Stage Unit} {report : StageReport}

theorem Serves.nil (want : Want kind) (report : StageReport) (store : MemoryStore) :
    Serves want [] (pure ()) report store := by
  have completed : Completed want [] store store :=
    ⟨.refl store, fun _ h => .inl h, fun _ h => absurd h List.not_mem_nil⟩
  exact ⟨0, store, by simp, completed, fun _ => ⟨rfl, .refl store⟩⟩

theorem Serves.cons_of_refused {e : StoreError} (hverdict : store.verdict kind draft = some e)
    (judge : store.verdict kind draft = store.verdict kind (want.draft key))
    (absent : (store.index kind).contains key = false) (once : key ∉ keys)
    (h : Serves want keys rest
      { report with rejections := report.rejections ++ [⟨key, e⟩] } store.counted) :
    Serves want (key :: keys) (attempt kind key draft >>= fun _ => rest) report store := by
  obtain ⟨created, new, hrun, hcompleted, hidle⟩ := h
  obtain ⟨hcompleted', hrejection⟩ :=
    hcompleted.cons_of_refused (judge.symm.trans hverdict) absent once
  refine ⟨created, new, ?_, hcompleted', fun hall => ?_⟩
  · rw [runWith_bind_of_ok respond (runWith_attempt_of_refused hverdict key report), hrun]
    simp [hrejection]
  · have hrest : ∀ other ∈ keys, (store.counted.verdict kind (want.draft other)).isSome := by
      intro other hother
      rw [((Unchanged.counted store).spares kind).verdict_eq]
      exact hall other (List.mem_cons_of_mem _ hother)
    obtain ⟨hcreated, unchanged⟩ := hidle hrest
    exact ⟨hcreated, (Unchanged.counted store).trans unchanged⟩

theorem Serves.cons_of_accepted (hverdict : store.verdict kind draft = none)
    (judge : store.verdict kind draft = store.verdict kind (want.draft key))
    (draftKey : kind.draftKey draft = key)
    (h : ∀ record, store.build kind draft = .ok record → Serves want keys rest
      { report with created := report.created + 1 } (store.grow kind draft record)) :
    Serves want (key :: keys) (attempt kind key draft >>= fun _ => rest) report store := by
  obtain ⟨record, hbuild, hattempt⟩ := exists_runWith_attempt hverdict key report
  obtain ⟨created, new, hrun, hcompleted, -⟩ := h record hbuild
  obtain ⟨hcompleted', hrejection⟩ := hcompleted.cons_of_accepted hbuild draftKey
  refine ⟨1 + created, new, ?_, hcompleted', fun hall => ?_⟩
  · rw [runWith_bind_of_ok respond hattempt, hrun]
    simp [hrejection, Nat.add_assoc]
  · have refused := hall key List.mem_cons_self
    simp [← judge, hverdict] at refused

end Turns

theorem serves_createMissing {want : Want kind} {wanted : List (String × kind.Draft)}
    (judged : Judged want wanted) {existing : NameIndex} {attempted : List String}
    (known : ∀ key, (store.index kind).contains key → existing.contains key ∨ key ∈ attempted)
    (report : StageReport) :
    Serves want (outstanding existing attempted (wanted.map Prod.fst))
      (createMissing kind existing attempted wanted) report store := by
  -- each turn either passes over a key or puts it in front of those that the rest asks for
  induction wanted generalizing store attempted report with
  | nil => exact .nil want report store
  | cons item rest ih =>
    obtain ⟨key, draft⟩ := item
    obtain ⟨draftKey, judge⟩ := judged _ List.mem_cons_self
    have judgedRest : Judged want rest := fun item h => judged item (List.mem_cons_of_mem _ h)
    rw [createMissing_cons, List.map_cons, outstanding]
    by_cases hskip : key.isEmpty || existing.contains key || attempted.contains key
    · rw [if_pos hskip, if_pos hskip]
      exact ih judgedRest known report
    · rw [if_neg hskip, if_neg hskip]
      simp only [Bool.or_eq_true, not_or, Bool.not_eq_true, List.contains_iff_mem] at hskip
      cases hverdict : store.verdict kind draft with
      | some e =>
        have absent : (store.index kind).contains key = false := by
          refine Bool.eq_false_iff.2 fun h => ?_
          obtain h | h := known key h
          · simp [hskip.1.2] at h
          · exact hskip.2 h
        have once : key ∉ outstanding existing (key :: attempted) (rest.map Prod.fst) :=
          fun h => (not_contains_of_mem_outstanding h).2 List.mem_cons_self
        refine .cons_of_refused hverdict (judge store) absent once (ih judgedRest ?_ _)
        intro other h
        rw [MemoryStore.index_congr MemoryStore.records_counted] at h
        exact (known other h).imp_right (List.mem_cons_of_mem _)
      | none =>
        refine .cons_of_accepted hverdict (judge store) draftKey fun record hbuild =>
          ih judgedRest ?_ _
        intro other h
        obtain h | rfl := contains_index_grow hbuild h
        · exact (known other h).imp_right (List.mem_cons_of_mem _)
        · exact .inr (by simp [draftKey])

/-! ## The stage -/

/-- What a stage for the want has done: it has settled the want, and if the want was settled
before, it has done nothing. -/
structure Settles (want : Want kind) (old new : MemoryStore) (created : Nat) : Prop where
  grows : Grows [kind] old new
  settled : want.Settled new
  idle : want.Settled old → created = 0 ∧ Unchanged old new

theorem Settles.idle_of_unchanged {want : Want kind} {start old new : MemoryStore} {created : Nat}
    (h : Settles want old new created) (settled : want.Settled start)
    (unchanged : Unchanged start old) : created = 0 ∧ Unchanged start new := by
  obtain ⟨hcreated, hnew⟩ := h.idle (settled.mono (unchanged.spares kind))
  exact ⟨hcreated, unchanged.trans hnew⟩

theorem Completed.outstanding_eq {want : Want kind} {new : MemoryStore}
    (h : Completed want (want.outstanding store) store new) : want.outstanding new =
      (want.outstanding store).filter fun key => !(new.index kind).contains key :=
  outstanding_filter (fun _ hkey => h.grows.contains_index hkey) fun _ _ => Iff.rfl

theorem Completed.settled_of_outstanding {want : Want kind} {new : MemoryStore}
    (h : Completed want (want.outstanding store) store new) : want.Settled new := by
  intro key hkey
  simp only [h.outstanding_eq, List.mem_filter, Bool.not_eq_true'] at hkey
  obtain hcontains | hrefused := h.settled key hkey.1
  · simp [hkey.2] at hcontains
  · exact hrefused

theorem Completed.filterMap_rejection? {want : Want kind} {new : MemoryStore}
    (h : Completed want (want.outstanding store) store new) :
    (want.outstanding store).filterMap (want.rejection? new) = want.refusals new := by
  rw [Want.refusals, h.outstanding_eq, List.filterMap_filter]
  refine List.filterMap_congr fun key _ => ?_
  cases hcontains : (new.index kind).contains key <;> simp [Want.rejection?, hcontains]

theorem readIndex_run (quiet : Undisturbed store) (report : StageReport) :
    (readIndex kind).runWith respond report store = ((.ok (store.index kind), report), store) := by
  rw [readIndex,
    runWith_bind_of_ok respond (runWith_demand_of_ok respond (quiet.list_eq kind) report)]
  rfl

theorem ensure_run {want : Want kind} {wanted : NameIndex → List (String × kind.Draft)}
    (quiet : Undisturbed store) (judged : Judged want (wanted (store.index kind)))
    (keys : outstanding (store.index kind) [] ((wanted (store.index kind)).map Prod.fst) =
      want.outstanding store) (report : StageReport) : ∃ created new,
      (ensure kind wanted).runWith respond report store =
        ((.ok (new.index kind), { report with
          created := report.created + created
          rejections := report.rejections ++ want.refusals new }), new) ∧
      Settles want store new created := by
  have known : ∀ key, (store.index kind).contains key →
      (store.index kind).contains key ∨ key ∈ ([] : List String) := fun _ h => .inl h
  obtain ⟨created, new, hrun, hcompleted, hidle⟩ := serves_createMissing judged known report
  rw [keys] at hrun hcompleted hidle
  refine ⟨created, new, ?_, hcompleted.grows, hcompleted.settled_of_outstanding, hidle⟩
  rw [ensure, runWith_bind_of_ok respond (readIndex_run quiet report),
    runWith_bind_of_ok respond hrun, readIndex_run (hcompleted.grows.undisturbed quiet),
    hcompleted.filterMap_rejection?]

theorem run_conclude_ensure {want : Want kind} {wanted : NameIndex → List (String × kind.Draft)}
    (quiet : Undisturbed store) (judged : Judged want (wanted (store.index kind)))
    (keys : outstanding (store.index kind) [] ((wanted (store.index kind)).map Prod.fst) =
      want.outstanding store) (name : StageName) : ∃ created new,
      ((ensure kind wanted).conclude name).run respond store =
        ((want.report name created new, new.index kind), new) ∧
      Settles want store new created := by
  obtain ⟨created, new, hrun, hsettles⟩ := ensure_run quiet judged keys { stage := name }
  refine ⟨created, new, ?_, hsettles⟩
  rw [run_conclude_of_ok respond hrun, Nat.zero_add, List.nil_append, Want.report]

end Stage

end AssetSeed
