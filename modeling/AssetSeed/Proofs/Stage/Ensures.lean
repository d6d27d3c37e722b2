import AssetSeed.Proofs.Dialogue.Ensures
import AssetSeed.Proofs.Stage.Run

/-!
# What a stage ensures

## Main definitions

* `Stage.Ensures` — the weakest precondition of a stage.
* `Stage.Keeps` — invariants of a stage.

## Main statements

* `Stage.ensures_bind`, `Stage.Keeps.bind` — stages in sequence.
* `Stage.ensures_readIndex_recorded` — an index is that of the records listed.
* `Stage.Keeps.createMissing` — an invariant that each create keeps is kept by all of them.
* `Stage.Keeps.ensure` — a stage that creates what is missing lists and creates, no more.
* `Stage.Ensures.conclude` — a stage that ended early results in `default`.
-/

namespace AssetSeed.Stage

variable {α β σ : Type} {conduct : Conduct StoreProtocol σ}

/-- Whatever the database does, the stage ends with a result, a report and a state that satisfy
`post`. -/
def Ensures (conduct : Conduct StoreProtocol σ) (post : Except Failure α → StageReport → σ → Prop)
    (stage : Stage α) (report : StageReport) (s : σ) : Prop :=
  (stage.dialogue report).Ensures conduct (fun result s => post result.1 result.2 s) s

section Rules

variable {post : Except Failure α → StageReport → σ → Prop} {report : StageReport} {s : σ}

@[simp] theorem ensures_pure {a : α} :
    (pure a : Stage α).Ensures conduct post report s ↔ post (.ok a) report s := Iff.rfl

theorem ensures_bind {stage : Stage β} {next : β → Stage α} :
    (stage >>= next).Ensures conduct post report s ↔
      stage.Ensures conduct (fun result report s =>
        match result with
        | .ok b => (next b).Ensures conduct post report s
        | .error failure => post (.error failure) report s) report s := by
  rw [Ensures, dialogue_bind, Dialogue.ensures_bind]
  refine iff_of_eq (congrArg (fun p => Dialogue.Ensures conduct p _ s) ?_)
  funext result s
  obtain ⟨failure | b, report⟩ := result <;> rfl

theorem Ensures.mono {post' : Except Failure α → StageReport → σ → Prop} {stage : Stage α}
    (h : stage.Ensures conduct post report s)
    (imp : ∀ result report s, post result report s → post' result report s) :
    stage.Ensures conduct post' report s :=
  Dialogue.Ensures.mono h fun result s => imp result.1 result.2 s

theorem Ensures.bind {mid : Except Failure β → StageReport → σ → Prop} {stage : Stage β}
    {next : β → Stage α} (h : stage.Ensures conduct mid report s)
    (ok : ∀ b report s, mid (.ok b) report s → (next b).Ensures conduct post report s)
    (error : ∀ failure report s, mid (.error failure) report s → post (.error failure) report s) :
    (stage >>= next).Ensures conduct post report s := by
  refine ensures_bind.2 (h.mono fun result report s hmid => ?_)
  cases result with
  | ok b => exact ok b report s hmid
  | error failure => exact error failure report s hmid

theorem Ensures.and {post' : Except Failure α → StageReport → σ → Prop} {stage : Stage α}
    (h : stage.Ensures conduct post report s) (h' : stage.Ensures conduct post' report s) :
    stage.Ensures conduct (fun result report s => post result report s ∧ post' result report s)
      report s :=
  Dialogue.Ensures.and h h'

end Rules

theorem ensures_ask_bind {request : StoreRequest} {next : Except StoreError request.Reply → Stage α}
    {post : Except Failure α → StageReport → σ → Prop} {report : StageReport} {s : σ} :
    (ask request >>= next).Ensures conduct post report s ↔
      ∀ answer s', conduct request s answer s' →
        (next answer).Ensures conduct post report s' :=
  ensures_bind

theorem ensures_noteCreated_bind {next : Unit → Stage α}
    {post : Except Failure α → StageReport → σ → Prop} {report : StageReport} {s : σ} :
    (noteCreated >>= next).Ensures conduct post report s ↔
      (next ()).Ensures conduct post { report with created := report.created + 1 } s :=
  ensures_bind

theorem ensures_demand {request : StoreRequest}
    {post : Except Failure request.Reply → StageReport → σ → Prop} {report : StageReport} {s : σ} :
    (demand request).Ensures conduct post report s ↔
      ∀ answer s', conduct request s answer s' →
        post (answer.mapError Failure.ofStore) report s' := by
  rw [demand, ensures_ask_bind]
  refine forall_congr' fun answer => forall_congr' fun s' => imp_congr_right fun _ => ?_
  cases answer <;> rfl

theorem Ensures.conclude [Inhabited α] {name : StageName} {stage : Stage α}
    {post : Except Failure α → StageReport → σ → Prop} {s : σ}
    {post' : StageReport × α → σ → Prop} (h : stage.Ensures conduct post { stage := name } s)
    (ok : ∀ a report s, post (.ok a) report s → post' (report, a) s)
    (error : ∀ failure report s, post (.error failure) report s →
      post' ({ report with aborted := some failure }, default) s) :
    (stage.conclude name).Ensures conduct post' s := by
  refine Dialogue.Ensures.bind h fun result s hpost => ?_
  obtain ⟨failure | a, report⟩ := result
  · exact error failure report s hpost
  · exact ok a report s hpost

theorem ensures_readIndex {kind : Kind} {post : Except Failure NameIndex → StageReport → σ → Prop}
    {report : StageReport} {s : σ} :
    (readIndex kind).Ensures conduct post report s ↔
      ∀ answer s', conduct (.list kind) s answer s' →
        post ((answer.map fun records => Index.ofList (keyPairs kind records)).mapError
          Failure.ofStore) report s' := by
  rw [readIndex, ensures_bind, ensures_demand]
  refine forall_congr' fun answer => forall_congr' fun s' => imp_congr_right fun _ => ?_
  cases answer <;> rfl

/-- A listing adds itself to what has been said, and the index is read off its records. -/
theorem ensures_readIndex_recorded (kind : Kind) (report : StageReport)
    (said : List (Exchange StoreProtocol)) :
    (readIndex kind).Ensures Conduct.recorded (fun result _ said' =>
      ∃ answer, said' = said ++ [⟨.list kind, answer⟩] ∧
        result = (answer.map fun records => Index.ofList (keyPairs kind records)).mapError
          Failure.ofStore) report said :=
  ensures_readIndex.2 fun answer _ hsaid => ⟨answer, hsaid, rfl⟩

/-! ## Invariants -/

/-- What holds before the stage holds after it, however it ended. -/
def Keeps (conduct : Conduct StoreProtocol σ) (inv : σ → Prop) (stage : Stage α) : Prop :=
  ∀ report s, inv s → stage.Ensures conduct (fun _ _ s => inv s) report s

namespace Keeps

variable {inv : σ → Prop}

theorem pure (a : α) : (pure a : Stage α).Keeps conduct inv := fun _ _ h => h

theorem throw (failure : Failure) : (throw failure : Stage α).Keeps conduct inv := fun _ _ h => h

theorem bind {stage : Stage α} {next : α → Stage β} (h : stage.Keeps conduct inv)
    (rest : ∀ a, (next a).Keeps conduct inv) : (stage >>= next).Keeps conduct inv := by
  intro report s hs
  refine (h report s hs).bind ?_ ?_
  · intro a report s hs
    exact rest a report s hs
  · intro failure report s hs
    exact hs

theorem ask {request : StoreRequest}
    (step : ∀ s answer s', inv s → conduct request s answer s' → inv s') :
    (ask request).Keeps conduct inv := by
  intro report s hs answer s' hc
  exact step s answer s' hs hc

theorem demand {request : StoreRequest}
    (step : ∀ s answer s', inv s → conduct request s answer s' → inv s') :
    (demand request).Keeps conduct inv := by
  intro report s hs
  rw [ensures_demand]
  intro answer s' hc
  exact step s answer s' hs hc

theorem noteCreated : noteCreated.Keeps conduct inv := fun _ _ h => h

theorem noteUpdated : noteUpdated.Keeps conduct inv := fun _ _ h => h

theorem noteSkipped : noteSkipped.Keeps conduct inv := fun _ _ h => h

theorem tolerate (subject : String) (error : StoreError) :
    (tolerate subject error).Keeps conduct inv := by
  rw [Stage.tolerate]
  split
  · exact fun _ _ h => h
  · exact throw _

theorem attempt {kind : Kind} {key : String} {draft : kind.Draft}
    (step : ∀ s answer s', inv s → conduct (.create kind draft) s answer s' → inv s') :
    (attempt kind key draft).Keeps conduct inv := by
  refine (ask step).bind fun answer => ?_
  cases answer with
  | ok _ => exact noteCreated
  | error e => exact tolerate key e

theorem createMissing {kind : Kind} {existing : NameIndex} {attempted : List String}
    {wanted : List (String × kind.Draft)}
    (step : ∀ item ∈ wanted, ∀ s answer s', inv s →
      conduct (.create kind item.2) s answer s' → inv s') :
    (createMissing kind existing attempted wanted).Keeps conduct inv := by
  induction wanted generalizing attempted with
  | nil => exact pure ()
  | cons item rest ih =>
    obtain ⟨key, draft⟩ := item
    rw [createMissing_cons]
    have later : ∀ attempted,
        (Stage.createMissing kind existing attempted rest).Keeps conduct inv :=
      fun attempted => ih fun item hitem => step item (List.mem_cons_of_mem _ hitem)
    split
    · exact later attempted
    · exact (attempt (step _ List.mem_cons_self)).bind fun _ => later _

theorem readIndex {kind : Kind} (list : conduct.Preserves inv (.list kind)) :
    (readIndex kind).Keeps conduct inv :=
  (demand list).bind fun _ => pure _

theorem ensure_wanted {kind : Kind} {wanted : NameIndex → List (String × kind.Draft)}
    (list : conduct.Preserves inv (.list kind))
    (create : ∀ existing, ∀ item ∈ wanted existing, conduct.Preserves inv (.create kind item.2)) :
    (ensure kind wanted).Keeps conduct inv :=
  (readIndex list).bind fun existing =>
    (createMissing (create existing)).bind fun _ => readIndex list

theorem ensure {kind : Kind} {wanted : NameIndex → List (String × kind.Draft)}
    (list : conduct.Preserves inv (.list kind))
    (create : ∀ draft, conduct.Preserves inv (.create kind draft)) :
    (ensure kind wanted).Keeps conduct inv :=
  ensure_wanted list fun _ item _ => create item.2

theorem conclude [Inhabited α] {stage : Stage α} (keeps : stage.Keeps conduct inv)
    (name : StageName) {s : σ} (h : inv s) :
    (stage.conclude name).Ensures conduct (fun _ s => inv s) s :=
  (keeps _ s h).conclude (fun _ _ _ h => h) fun _ _ _ h => h

end Keeps

end AssetSeed.Stage
