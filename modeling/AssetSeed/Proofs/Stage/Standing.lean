import AssetSeed.Proofs.Dialogue.Overheard
import AssetSeed.Proofs.Reconcile.Settling
import AssetSeed.Proofs.Stage.Accounts

/-!
# Where a key stands

A key that is wanted is in the collection, or it has been asked for once and was refused once. This
is followed for one key through the loop of a stage, with a database in memory.

## Main definitions

* `Standing` — whether a key is there, how it was asked for, and what was noted of it.
* `Standing.Decided` — the key is there, or it was asked for in vain.

## Main statements

* `Stage.standing_attempt_of_ne` — a key stands where it stood when another one is asked for.
* `Stage.decided_attempt` — asking for a key decides it.
* `Stage.decided_createMissing`, `Stage.decided_ensure` — the loop, and the stage.
-/

namespace AssetSeed

open MemoryStore (respond)

/-! ## Standings -/

/-- Whether a record of the kind was asked for under the key. -/
def Exchange.tries (kind : Kind) (key : String) : Exchange StoreProtocol → Bool
  | ⟨.create other draft, _⟩ => other = kind && other.draftKey draft = key
  | _ => false

/-- How records of the kind were asked for under the key. -/
def Transcript.tries (said : Transcript) (kind : Kind) (key : String) : Transcript :=
  said.filter (Exchange.tries kind key)

/-- What a report notes of the key. -/
def StageReport.notes (report : StageReport) (key : String) : List Rejection :=
  report.rejections.filter fun rejection => rejection.subject = key

/-- Where a key stands. -/
structure Standing where
  /-- Whether a record of the collection has the key. -/
  present : Bool
  tries : Transcript
  notes : List Rejection

/-- Where the key stands, in view of the database, of what was said, and of a report. -/
def standing (kind : Kind) (key : String) (state : MemoryStore × Transcript)
    (report : StageReport) : Standing where
  present := (state.1.index kind).contains key
  tries := state.2.tries kind key
  notes := report.notes key

namespace Standing

/-- The key is not there, and nothing has been done about it. -/
def pending : Standing :=
  ⟨false, [], []⟩

/-- Either the key is there and nothing is noted of it, or it is not there, has been asked for once
and was refused, and the refusal is noted once. -/
inductive Decided (kind : Kind) (key : String) : Standing → Prop where
  | placed (tries : Transcript) : Decided kind key ⟨true, tries, []⟩
  | refused (draft : kind.Draft) (e : StoreError) :
    Decided kind key ⟨false, [⟨.create kind draft, .error e⟩], [⟨key, e⟩]⟩

end Standing

variable {kind : Kind} {key : String} {state state' : MemoryStore × Transcript}
  {report report' : StageReport}

theorem Exchange.tries_create {draft : kind.Draft} {answer : Except StoreError kind.Record} :
    Exchange.tries kind key ⟨.create kind draft, answer⟩ = decide (kind.draftKey draft = key) := by
  simp [Exchange.tries]

theorem Exchange.stage_of_tries {e : Exchange StoreProtocol} (h : e.tries kind key) :
    e.question.stage = kind.stage := by
  obtain ⟨request, answer⟩ := e
  cases request with
  | create other draft =>
    obtain ⟨same, -⟩ := Bool.and_eq_true_iff.1 h
    exact congrArg Kind.stage (of_decide_eq_true same)
  | _ => cases h

/-- Only prefixes are changed by another stage than the one that creates them. -/
theorem StoreRequest.stage_of_touches {request : StoreRequest} (h : request.touches? = some kind)
    (ne : kind ≠ .ipPrefix) : request.stage = kind.stage := by
  cases request with
  | list other => cases h
  | listUndescribed => cases h
  | create other draft => cases h; rfl
  | describe id description => cases h; exact absurd rfl ne
  | setPrimary device primary => cases h; rfl

/-- A key stands where it stood if no record of its kind was asked for. -/
theorem standing_congr
    (present : (state'.1.index kind).contains key = (state.1.index kind).contains key)
    {own : Transcript} (said : state'.2 = state.2 ++ own)
    (untried : ∀ e ∈ own, e.tries kind key = false) (notes : report'.notes key = report.notes key) :
    standing kind key state' report' = standing kind key state report := by
  have none : own.filter (Exchange.tries kind key) = [] :=
    List.filter_eq_nil_iff.2 fun e he => Bool.not_eq_true _ ▸ untried e he
  simp only [standing, present, said, notes, Transcript.tries,
    List.filter_append, none, List.append_nil]

/-- A collection is no matter to other stages than the one that creates its records. -/
theorem MemoryStore.index_of_stage_ne {store store' : MemoryStore} {request : StoreRequest}
    {answer : StoreProtocol.Answer request} (h : respond request store = (answer, store'))
    (ne : request.stage ≠ kind.stage) (unshared : kind ≠ .ipPrefix) :
    store'.index kind = store.index kind :=
  MemoryStore.index_congr ((MemoryStore.effect_of_respond h).records_of_ne fun touched =>
    ne (StoreRequest.stage_of_touches touched unshared))

/-- What is said in other stages is no matter to a key. -/
theorem standing_of_stage_ne {request : StoreRequest} {answer : StoreProtocol.Answer request}
    (h : respond.overheard request state answer state') (ne : request.stage ≠ kind.stage)
    (unshared : kind ≠ .ipPrefix) (report : StageReport) :
    standing kind key state' report = standing kind key state report := by
  obtain ⟨hrespond, hsaid⟩ := h
  refine standing_congr ?_ hsaid (List.forall_mem_singleton.2 ?_) rfl
  · rw [MemoryStore.index_of_stage_ne hrespond ne unshared]
  · exact Bool.eq_false_iff.2 fun tried => ne (Exchange.stage_of_tries tried)

theorem standing_of_list {listed : Kind} {answer : StoreProtocol.Answer (.list listed)}
    (h : respond.overheard (.list listed) state answer state') (report : StageReport) :
    standing kind key state' report = standing kind key state report := by
  obtain ⟨hrespond, hsaid⟩ := h
  have same : state'.1.records kind = state.1.records kind :=
    (MemoryStore.effect_of_respond hrespond).records_of_ne nofun
  exact standing_congr (by rw [MemoryStore.index_congr same]) hsaid
    (List.forall_mem_singleton.2 rfl) rfl

/-! ## The loop -/

namespace Stage

theorem notes_append (report : StageReport) (rejection : Rejection) (key : String) :
    StageReport.notes { report with rejections := report.rejections ++ [rejection] } key =
      report.notes key ++ if rejection.subject = key then [rejection] else [] := by
  rw [StageReport.notes, List.filter_append, ← StageReport.notes]
  by_cases h : rejection.subject = key <;> simp [h]

/-- What a create does: it is refused and this is noted, or it adds a record. -/
inductive Attempted (kind : Kind) (key : String) (draft : kind.Draft)
    (state : MemoryStore × Transcript) (report : StageReport) :
    StageReport → MemoryStore × Transcript → Prop
  | refused {e : StoreError} (verdict : state.1.verdict kind draft = some e) :
    Attempted kind key draft state report
      { report with rejections := report.rejections ++ [⟨key, e⟩] }
      (state.1.counted, state.2 ++ [⟨.create kind draft, .error e⟩])
  | created {record : Int → kind.Record} (made : state.1.build kind draft = .ok record) :
    Attempted kind key draft state report { report with created := report.created + 1 }
      (state.1.grow kind draft record,
        state.2 ++ [⟨.create kind draft, .ok (record (state.1.lastId + 1))⟩])

theorem attempted_attempt (kind : Kind) (key : String) (draft : kind.Draft) (report : StageReport)
    (state : MemoryStore × Transcript) :
    (attempt kind key draft).Ensures respond.overheard
      (fun _ => Attempted kind key draft state report) report state := by
  refine ensures_ask_bind.2 ?_
  rintro answer ⟨store, _⟩ ⟨hrespond, rfl⟩
  cases verdict : state.1.verdict kind draft with
  | some e =>
    rw [MemoryStore.respond_create_of_verdict verdict] at hrespond
    cases hrespond
    simp only [tolerate, if_pos (MemoryStore.isRejected_of_verdict verdict)]
    exact .refused verdict
  | none =>
    obtain ⟨record, made, answered⟩ := MemoryStore.exists_respond_create_eq_grow verdict
    rw [answered] at hrespond
    cases hrespond
    exact .created made

theorem contains_index_grow_of_ne {store : MemoryStore} {draft : kind.Draft}
    {record : Int → kind.Record} (made : store.build kind draft = .ok record)
    (ne : kind.draftKey draft ≠ key) :
    ((store.grow kind draft record).index kind).contains key = (store.index kind).contains key := by
  refine Bool.eq_iff_iff.2 ⟨fun h => ?_, (MemoryStore.Grows.of_grow draft record).contains_index⟩
  exact (contains_index_grow made h).resolve_right ne.symm

/-- A key stands where it stood when another one is asked for. -/
theorem Attempted.standing_eq {other : String} {draft : kind.Draft}
    (attempted : Attempted kind other draft state report report' state')
    (draftKey : kind.draftKey draft = other) (ne : other ≠ key) :
    standing kind key state' report' = standing kind key state report := by
  have untried : ∀ answer, Exchange.tries kind key ⟨.create kind draft, answer⟩ = false := by
    simp [Exchange.tries_create, draftKey, ne]
  cases attempted with
  | refused verdict =>
    refine standing_congr (MemoryStore.index_congr MemoryStore.records_counted ▸ rfl) rfl
      (List.forall_mem_singleton.2 (untried _)) ?_
    simp [notes_append, ne]
  | created made =>
    exact standing_congr (contains_index_grow_of_ne made (draftKey ▸ ne)) rfl
      (List.forall_mem_singleton.2 (untried _)) rfl

/-- Asking for a key decides it. -/
theorem Attempted.decided {draft : kind.Draft}
    (attempted : Attempted kind key draft state report report' state')
    (draftKey : kind.draftKey draft = key)
    (pending : standing kind key state report = .pending) :
    (standing kind key state' report').Decided kind key := by
  obtain ⟨absent, untried, unnoted⟩ : (state.1.index kind).contains key = false ∧
      state.2.tries kind key = [] ∧ report.notes key = [] := by
    simpa [standing, Standing.pending] using pending
  cases attempted with
  | @refused e verdict =>
    have tried : Transcript.tries (state.2 ++ [⟨.create kind draft, .error e⟩]) kind key =
        [⟨.create kind draft, .error e⟩] := by
      rw [Transcript.tries, List.filter_append, ← Transcript.tries, untried]
      simp [Exchange.tries_create, draftKey]
    rw [standing, tried, notes_append, unnoted, if_pos rfl,
      MemoryStore.index_congr MemoryStore.records_counted, absent]
    exact .refused draft e
  | @created record made =>
    have present := contains_index_grow_self made
    rw [draftKey] at present
    have unnoted' : StageReport.notes { report with created := report.created + 1 } key = [] :=
      unnoted
    rw [standing, present, unnoted']
    exact .placed _

/-- After a turn, a key that was wanted is there, has been asked for, or is still to come. -/
theorem reached_of_cons {existing : NameIndex} {attempted attempted' keys : List String}
    {other : String} (subset : attempted ⊆ attempted')
    (here : key = other → existing.contains key = true ∨ key ∈ attempted')
    (h : existing.contains key = true ∨ key ∈ attempted ∨ key ∈ other :: keys) :
    existing.contains key = true ∨ key ∈ attempted' ∨ key ∈ keys := by
  obtain there | tried | wanted := h
  · exact .inl there
  · exact .inr (.inl (subset tried))
  · obtain same | later := List.mem_cons.1 wanted
    · exact (here same).imp_right .inl
    · exact .inr (.inr later)

/-- The keys that are passed over are decided already, and the loop decides the others that are
wanted. -/
theorem decided_createMissing {wanted : List (String × kind.Draft)}
    (keyed : ∀ item ∈ wanted, kind.draftKey item.2 = item.1) {existing : NameIndex}
    {attempted : List String} (nonempty : key ≠ "")
    (known : existing.contains key = true ∨ key ∈ attempted →
      (standing kind key state report).Decided kind key)
    (fresh : ¬(existing.contains key = true ∨ key ∈ attempted) →
      standing kind key state report = .pending) :
    (createMissing kind existing attempted wanted).Ensures respond.overheard
      (fun result report' state' => result = .ok () →
        existing.contains key = true ∨ key ∈ attempted ∨ key ∈ wanted.map Prod.fst →
          (standing kind key state' report').Decided kind key) report state := by
  induction wanted generalizing attempted state report with
  | nil =>
    rintro - (there | tried | wanted)
    · exact known (.inl there)
    · exact known (.inr tried)
    · cases wanted
  | cons item rest ih =>
    obtain ⟨other, draft⟩ := item
    obtain ⟨draftKey, keyedRest⟩ := List.forall_mem_cons.1 keyed
    rw [createMissing_cons]
    split
    · next skipped =>
      simp only [Bool.or_eq_true, String.isEmpty_iff, List.contains_iff_mem] at skipped
      have here : key = other → existing.contains key = true ∨ key ∈ attempted := by
        rintro rfl
        exact (or_assoc.1 skipped).resolve_left nonempty
      exact (ih keyedRest known fresh).mono fun _ _ _ decided ok wanted =>
        decided ok (reached_of_cons (List.Subset.refl _) here wanted)
    · next asked =>
      simp only [Bool.or_eq_true, not_or, List.contains_iff_mem] at asked
      refine (attempted_attempt kind other draft report state).bind ?_ (by rintro _ _ _ - ⟨⟩)
      rintro _ report' state' turn
      -- the key that is asked for was pending, and any other one stands where it stood
      have turned : (other = key → (standing kind key state' report').Decided kind key) ∧
          (other ≠ key → standing kind key state' report' = standing kind key state report) := by
        refine ⟨?_, turn.standing_eq draftKey⟩
        rintro rfl
        exact turn.decided draftKey (fresh (by simp [asked]))
      have known' : existing.contains key = true ∨ key ∈ other :: attempted →
          (standing kind key state' report').Decided kind key := by
        intro h
        by_cases same : other = key
        · exact turned.1 same
        · rw [turned.2 same]
          exact known (h.imp_right fun tried => (List.mem_cons.1 tried).resolve_left (Ne.symm same))
      have fresh' : ¬(existing.contains key = true ∨ key ∈ other :: attempted) →
          standing kind key state' report' = .pending := by
        intro h
        have ne : other ≠ key := fun same => h (.inr (same ▸ List.mem_cons_self))
        rw [turned.2 ne]
        exact fresh fun h' => h (h'.imp_right (List.mem_cons_of_mem _))
      have here : key = other → existing.contains key = true ∨ key ∈ other :: attempted :=
        fun same => .inr (same ▸ List.mem_cons_self)
      exact (ih keyedRest known' fresh').mono fun _ _ _ decided ok wanted =>
        decided ok (reached_of_cons (List.subset_cons_self _ _) here wanted)

/-! ## The stage -/

theorem standing_readIndex (report : StageReport) (state : MemoryStore × Transcript)
    (kind : Kind) (key : String) :
    (readIndex kind).Ensures respond.overheard (fun _ report' state' =>
      standing kind key state' report' = standing kind key state report) report state :=
  ensures_readIndex.2 fun _ _ h => standing_of_list h report

theorem returns_readIndex (kind : Kind) (report : StageReport) (state : MemoryStore × Transcript) :
    (readIndex kind).Ensures respond.overheard (fun result _ state' =>
      ∀ index, result = .ok index → index = state'.1.index kind) report state := by
  refine ensures_readIndex.2 fun answer state' h => ?_
  cases answer with
  | error e => exact nofun
  | ok records =>
    rintro index ⟨⟩
    exact MemoryStore.index_of_list_ok h.1

/-- A stage that goes through returns the index of the collection. -/
theorem returns_ensure (wanted : NameIndex → List (String × kind.Draft)) (report : StageReport)
    (state : MemoryStore × Transcript) :
    (ensure kind wanted).Ensures respond.overheard (fun result _ state' =>
      ∀ index, result = .ok index → index = state'.1.index kind) report state := by
  refine ensures_bind.2 (.of_forall fun result state => ?_)
  cases result.1 with
  | error failure => exact nofun
  | ok existing =>
    refine ensures_bind.2 (.of_forall fun result state => ?_)
    cases result.1 with
    | error failure => exact nofun
    | ok _ => exact returns_readIndex kind result.2 state

/-- A stage that goes through decides each key that is wanted where it is not there. -/
theorem decided_ensure {wanted : NameIndex → List (String × kind.Draft)}
    (keyed : ∀ existing, ∀ item ∈ wanted existing, kind.draftKey item.2 = item.1)
    (covered : ∀ existing : NameIndex,
      existing.contains key = true ∨ key ∈ (wanted existing).map Prod.fst)
    (nonempty : key ≠ "") (untried : state.2.tries kind key = [])
    (unnoted : report.notes key = []) :
    (ensure kind wanted).Ensures respond.overheard (fun result report' state' =>
      ∀ index, result = .ok index →
        (standing kind key state' report').Decided kind key) report state := by
  refine ((standing_readIndex report state kind key).and (returns_readIndex kind report state)).bind
    ?_ fun _ _ _ _ => nofun
  rintro existing report₁ state₁ ⟨same, listed⟩
  obtain rfl := listed existing rfl
  have start : standing kind key state₁ report₁ = ⟨(state₁.1.index kind).contains key, [], []⟩ := by
    obtain ⟨-, tries, notes⟩ := Standing.mk.inj same
    rw [standing, tries, untried, notes, unnoted]
  have known : (state₁.1.index kind).contains key = true ∨ key ∈ [] →
      (standing kind key state₁ report₁).Decided kind key := by
    rintro (there | tried)
    · rw [start, there]
      exact .placed []
    · cases tried
  have fresh : ¬((state₁.1.index kind).contains key = true ∨ key ∈ []) →
      standing kind key state₁ report₁ = .pending := by
    intro absent
    rw [start, Bool.eq_false_iff.2 fun there => absent (.inl there)]
    rfl
  refine (decided_createMissing (keyed _) nonempty known fresh).bind ?_ fun _ _ _ _ => nofun
  rintro _ report₂ state₂ decided
  refine (standing_readIndex report₂ state₂ kind key).mono ?_
  rintro result report₃ state₃ same _ _
  rw [same]
  exact decided rfl ((covered _).imp_right .inr)

end Stage

end AssetSeed
