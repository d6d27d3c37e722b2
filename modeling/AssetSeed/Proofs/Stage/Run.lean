import AssetSeed.Proofs.Dialogue.Run
import AssetSeed.Reconcile.Stage

/-!
# Stages as dialogues

## Main definitions

* `Stage.dialogue` — the dialogue of a stage that goes on from a report.
* `Stage.runWith` — result, report and state of a stage with a responder.
* `Stage.attempt` — one create, and the note of what came of it.

## Main statements

* `Stage.dialogue_bind` — stages in sequence; a stage that ended early is not followed by the next.
* `Stage.createMissing_cons` — the loop over wanted records, one attempt at a time.
-/

namespace AssetSeed.Stage

variable {α β σ : Type}

/-- The stage as a dialogue that goes on from a report. -/
def dialogue (stage : Stage α) (report : StageReport) :
    StoreDialogue (Except Failure α × StageReport) :=
  (ExceptT.run stage).run report

theorem dialogue_bind (stage : Stage α) (next : α → Stage β) (report : StageReport) :
    (stage >>= next).dialogue report = stage.dialogue report >>= fun
      | (.ok a, report) => (next a).dialogue report
      | (.error failure, report) => pure (.error failure, report) := by
  simp only [dialogue, ExceptT.run_bind, StateT.run_bind]
  refine congrArg _ (funext fun result => ?_)
  obtain ⟨failure | a, report⟩ := result <;> rfl

/-! ## Runs with a responder -/

/-- The result, the report and the state that a stage leaves with a responder. -/
def runWith (respond : Responder StoreProtocol σ) (stage : Stage α) (report : StageReport)
    (s : σ) : (Except Failure α × StageReport) × σ :=
  (stage.dialogue report).run respond s

variable (respond : Responder StoreProtocol σ)

@[simp] theorem runWith_pure (a : α) (report : StageReport) (s : σ) :
    (pure a : Stage α).runWith respond report s = ((.ok a, report), s) := rfl

/-- A stage that went through is followed by the next one. -/
theorem runWith_bind_of_ok {stage : Stage α} {next : α → Stage β} {report report' : StageReport}
    {s s' : σ} {a : α} (h : stage.runWith respond report s = ((.ok a, report'), s')) :
    (stage >>= next).runWith respond report s = (next a).runWith respond report' s' := by
  have run : (stage.dialogue report).run respond s = ((.ok a, report'), s') := h
  rw [runWith, dialogue_bind, Dialogue.run_bind, run]
  rfl

theorem runWith_ask_bind (request : StoreRequest)
    (next : Except StoreError request.Reply → Stage β) (report : StageReport) (s : σ) :
    (ask request >>= next).runWith respond report s =
      (next (respond request s).1).runWith respond report (respond request s).2 :=
  runWith_bind_of_ok respond rfl

theorem runWith_demand_of_ok {request : StoreRequest} {reply : request.Reply} {s s' : σ}
    (h : respond request s = (.ok reply, s')) (report : StageReport) :
    (demand request).runWith respond report s = ((.ok reply, report), s') := by
  rw [demand, runWith_ask_bind, h]
  rfl

/-- A rejection is noted, and the stage goes on. -/
theorem runWith_tolerate {error : StoreError} (h : error.isRejected = true) (subject : String)
    (report : StageReport) (s : σ) : (tolerate subject error).runWith respond report s =
      ((.ok (), { report with rejections := report.rejections ++ [⟨subject, error⟩] }), s) := by
  rw [tolerate, if_pos h]
  rfl

/-- Stages that run alike conclude alike. -/
theorem run_conclude_congr [Inhabited α] {name : StageName} {stage stage' : Stage α} {s : σ}
    (h : stage.runWith respond { stage := name } s = stage'.runWith respond { stage := name } s) :
    (stage.conclude name).run respond s = (stage'.conclude name).run respond s := by
  have run : (stage.perform name).run respond s = (stage'.perform name).run respond s := h
  rw [conclude, conclude, Dialogue.run_bind, Dialogue.run_bind, run]

theorem run_conclude_of_ok [Inhabited α] {name : StageName} {stage : Stage α}
    {report : StageReport} {s s' : σ} {a : α}
    (h : stage.runWith respond { stage := name } s = ((.ok a, report), s')) :
    (stage.conclude name).run respond s = ((report, a), s') := by
  have run : (stage.perform name).run respond s = ((.ok a, report), s') := h
  rw [conclude, Dialogue.run_bind, run]
  rfl

/-! ## One create after the other -/

/-- Asks for one record, and notes that it was created or refused. -/
def attempt (kind : Kind) (key : String) (draft : kind.Draft) : Stage Unit := do
  match ← ask (.create kind draft) with
  | .ok _ => noteCreated
  | .error e => tolerate key e

theorem createMissing_cons (kind : Kind) (existing : NameIndex) (attempted : List String)
    (key : String) (draft : kind.Draft) (rest : List (String × kind.Draft)) :
    createMissing kind existing attempted ((key, draft) :: rest) =
      if key.isEmpty || existing.contains key || attempted.contains key then
        createMissing kind existing attempted rest
      else
        attempt kind key draft >>= fun _ =>
          createMissing kind existing (key :: attempted) rest := by
  rw [createMissing, attempt, bind_assoc]
  split
  · rfl
  · refine congrArg _ (funext fun answer => ?_)
    cases answer <;> rfl

end AssetSeed.Stage
