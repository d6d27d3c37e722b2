import AssetSeed.Proofs.Restore.Steps
import Mathlib.Data.List.Basic
import Mathlib.Data.List.Find
import Mathlib.Data.List.Nodup
import Mathlib.Logic.Function.Basic

/-!
# The course of a restore

The steps are taken in their order up to a vital one that fails. Which steps are listed, and which
commands are given, follows from where the run ended.

## Main definitions

* `Restore.Step.upTo` — the steps up to the one at which a run ends.
* `Restore.Plan.Taken` — a run of steps: each one attempted, up to a vital one that failed.
* `Restore.Plan.carriesOut` — the command of a step was given and succeeded.

## Main statements

* `Restore.Plan.ensures_takeSteps` — steps are taken, whatever the host answers.
* `Restore.Plan.Taken.listed` — the steps of a run are those up to its end.
* `Restore.Plan.Taken.planned`, `Restore.Plan.Taken.follows` — the commands of a run.
* `Restore.Plan.Taken.aborted_eq` — a run ends at the first vital step that was not carried out.
-/

namespace AssetSeed.Restore

namespace Step

/-- The steps that are taken if they end at this one, or do not end early. -/
def upTo (abortedAt : Option Step) : List Step → List Step
  | [] => []
  | step :: rest => if abortedAt = some step then [step] else step :: upTo abortedAt rest

theorem upTo_none (steps : List Step) : upTo none steps = steps := by
  induction steps with
  | nil => rfl
  | cons step rest ih => rw [upTo, if_neg nofun, ih]

theorem upTo_prefix (abortedAt : Option Step) (steps : List Step) :
    upTo abortedAt steps <+: steps := by
  induction steps with
  | nil => exact List.prefix_rfl
  | cons step rest ih =>
    rw [upTo]
    split
    · exact ⟨rest, rfl⟩
    · exact (List.prefix_cons_inj step).2 ih

theorem nodup_all : all.Nodup := by decide

theorem isVital_iff {step : Step} :
    step.isVital ↔ step = .createDatabase ∨ step = .loadSnapshot := by
  cases step <;> simp [isVital]

end Step

namespace Plan

/-- The steps were attempted one after the other, up to a vital one that failed. -/
inductive Taken (plan : Plan) :
    List Step → List (Step × Status) → Option Step → HostTranscript → Prop
  | nil : Taken plan [] [] none []
  | stop {step : Step} {rest : List Step} {status : Status} {own : HostTranscript}
      (attempted : plan.Attempted step status own) (failed : status.isFailed)
      (vital : step.isVital) : Taken plan (step :: rest) [(step, status)] (some step) own
  | cons {step : Step} {rest : List Step} {status : Status} {own later : HostTranscript}
      {results : List (Step × Status)} {abortedAt : Option Step}
      (attempted : plan.Attempted step status own)
      (passed : (status.isFailed && step.isVital) = false)
      (taken : Taken plan rest results abortedAt later) :
      Taken plan (step :: rest) ((step, status) :: results) abortedAt (own ++ later)

theorem ensures_takeSteps (plan : Plan) (steps : List Step) (said : HostTranscript) :
    (plan.takeSteps steps).Ensures Conduct.recorded
      (fun taken said' => ∃ own, said' = said ++ own ∧ plan.Taken steps taken.1 taken.2 own)
      said := by
  induction steps generalizing said with
  | nil => exact ⟨[], (List.append_nil said).symm, .nil⟩
  | cons step rest ih =>
    refine Dialogue.Ensures.bind (plan.attempts_attempt step said) ?_
    rintro status _ ⟨own, rfl, attempted⟩
    cases ends : status.isFailed && step.isVital with
    | true =>
      obtain ⟨failed, vital⟩ := Bool.and_eq_true_iff.1 ends
      rw [if_pos rfl]
      exact ⟨own, rfl, .stop attempted failed vital⟩
    | false =>
      rw [if_neg Bool.false_ne_true]
      refine (ih _).bind ?_
      rintro ⟨results, abortedAt⟩ _ ⟨later, rfl, taken⟩
      exact ⟨own ++ later, List.append_assoc .., .cons attempted ends taken⟩

namespace Taken

variable {plan : Plan} {steps : List Step} {results : List (Step × Status)}
  {abortedAt : Option Step} {said : HostTranscript}

theorem abortedAt_mem {step : Step} (taken : plan.Taken steps results (some step) said) :
    step ∈ steps := by
  generalize ended : some step = abortedAt at taken
  induction taken with
  | nil => cases ended
  | stop => cases ended; exact List.mem_cons_self
  | cons attempted passed taken ih => exact List.mem_cons_of_mem _ (ih ended)

/-- Where a run ended says which steps it lists. -/
theorem listed (taken : plan.Taken steps results abortedAt said) (distinct : steps.Nodup) :
    results.map (·.1) = Step.upTo abortedAt steps := by
  induction taken with
  | nil => rfl
  | stop => exact (if_pos rfl).symm
  | @cons step rest status own later results abortedAt attempted passed taken ih =>
    obtain ⟨fresh, distinct⟩ := List.nodup_cons.1 distinct
    have elsewhere : abortedAt ≠ some step := by
      rintro rfl
      exact fresh taken.abortedAt_mem
    rw [Step.upTo, if_neg elsewhere, List.map_cons, ih distinct]

/-- A run that was ended lists the step at which it ended last. -/
theorem last {step : Step} (taken : plan.Taken steps results (some step) said) :
    step.isVital ∧ ∃ status, results.getLast? = some (step, status) ∧ status.isFailed := by
  generalize ended : some step = abortedAt at taken
  induction taken with
  | nil => cases ended
  | stop attempted failed vital =>
    cases ended
    exact ⟨vital, _, rfl, failed⟩
  | cons attempted passed taken ih =>
    obtain ⟨vital, status, last, failed⟩ := ih ended
    exact ⟨vital, status, by rw [List.getLast?_cons, last]; rfl, failed⟩

theorem subset (taken : plan.Taken steps results abortedAt said) :
    results.map (·.1) ⊆ steps := by
  induction taken with
  | nil => exact List.Subset.refl _
  | stop => exact List.cons_subset_cons _ (List.nil_subset _)
  | cons attempted passed taken ih => exact List.cons_subset_cons _ ih

/-- A vital step that failed ended the run. -/
theorem ended {step : Step} {status : Status} (taken : plan.Taken steps results abortedAt said)
    (mem : (step, status) ∈ results) (failed : status.isFailed) (vital : step.isVital) :
    abortedAt = some step := by
  induction taken with
  | nil => cases mem
  | stop => cases List.mem_singleton.1 mem; rfl
  | cons attempted passed taken ih =>
    rcases List.mem_cons.1 mem with same | mem
    · cases same
      rw [failed, vital] at passed
      cases passed
    · exact ih mem

/-- Each listed step was attempted. -/
theorem attempted {entry : Step × Status} (taken : plan.Taken steps results abortedAt said)
    (mem : entry ∈ results) : ∃ own, plan.Attempted entry.1 entry.2 own := by
  induction taken with
  | nil => cases mem
  | stop attempted =>
    cases List.mem_singleton.1 mem
    exact ⟨_, attempted⟩
  | cons attempted passed taken ih =>
    rcases List.mem_cons.1 mem with rfl | mem
    · exact ⟨_, attempted⟩
    · exact ih mem

/-- A command that succeeded did so in the attempt of a listed step. -/
theorem exists_accepted {command : Command} {needsOutput : Bool}
    (taken : plan.Taken steps results abortedAt said)
    (accepted : said.accepted command needsOutput) :
    ∃ entry ∈ results, ∃ own, plan.Attempted entry.1 entry.2 own ∧
      own.accepted command needsOutput := by
  induction taken with
  | nil => cases accepted
  | stop attempted => exact ⟨_, List.mem_singleton.2 rfl, _, attempted, accepted⟩
  | cons attempted passed taken ih =>
    rw [HostTranscript.accepted_append, Bool.or_eq_true] at accepted
    rcases accepted with now | later
    · exact ⟨_, List.mem_cons_self, _, attempted, now⟩
    · obtain ⟨entry, mem, found⟩ := ih later
      exact ⟨entry, List.mem_cons_of_mem _ mem, found⟩

/-- The commands of a run are those of the listed steps, each with the files of its time. -/
theorem planned (taken : plan.Taken steps results abortedAt said) (distinct : steps.Nodup) :
    ∃ disks : Step → Disk, said.commands =
      (results.map (·.1)).filterMap fun step => plan.command? (disks step) step := by
  induction taken with
  | nil => exact ⟨default, rfl⟩
  | @stop step rest status own attempted =>
    obtain ⟨disk, commands⟩ := attempted.planned
    refine ⟨fun _ => disk, commands.trans ?_⟩
    cases h : plan.command? disk step <;> simp [h]
  | @cons step rest status own later results abortedAt attempted passed taken ih =>
    obtain ⟨fresh, distinct⟩ := List.nodup_cons.1 distinct
    obtain ⟨disk, now⟩ := attempted.planned
    obtain ⟨disks, commands⟩ := ih distinct
    -- The step is not taken again, so its disk can be chosen apart from those of the rest.
    refine ⟨Function.update disks step disk, ?_⟩
    have same : ∀ other ∈ results.map (·.1),
        plan.command? (Function.update disks step disk other) other =
          plan.command? (disks other) other := by
      intro other mem
      have ne : other ≠ step := fun h => fresh (h ▸ taken.subset mem)
      rw [Function.update_of_ne ne]
    rw [HostTranscript.commands_append, now, commands, List.map_cons, List.filterMap_cons,
      Function.update_self, List.filterMap_congr same]
    cases plan.command? disk step <;> rfl

/-- Where the files do not change, their content settles the commands of the listed steps. -/
theorem follows {disk : Disk} (taken : plan.Taken steps results abortedAt said)
    (finds : plan.Finds disk said) :
    said.commands = (results.map (·.1)).filterMap (plan.command? disk) := by
  induction taken with
  | nil => rfl
  | @stop step rest status own attempted =>
    rw [attempted.follows disk finds]
    cases h : plan.command? disk step <;> simp [h]
  | @cons step rest status own later results abortedAt attempted passed taken ih =>
    obtain ⟨now, then_⟩ := finds.of_append
    rw [HostTranscript.commands_append, attempted.follows disk now, ih then_, List.map_cons,
      List.filterMap_cons]
    cases plan.command? disk step <;> rfl

/-- What a restore has stored it does not look at, as the media are stored last. -/
theorem fresh (taken : plan.Taken steps results abortedAt said)
    (mediaLast : steps.Pairwise fun step _ => step ≠ .restoreMedia) : said.Fresh := by
  induction taken with
  | nil => exact .nil
  | stop attempted => exact attempted.fresh
  | @cons step rest status own later results abortedAt attempted passed taken ih =>
    obtain ⟨ordinary, mediaLast⟩ := List.pairwise_cons.1 mediaLast
    refine List.pairwise_append.2 ⟨attempted.fresh, ih mediaLast, ?_⟩
    intro exchange mem other mem' saves
    -- A step that stores is the last one: there is no later exchange.
    cases rest with
    | nil => cases taken; cases mem'
    | cons next rest =>
      have unsaved := attempted.unsaved (ordinary next List.mem_cons_self) exchange mem
      cases unsaved.symm.trans saves

end Taken

/-- The command of the step, if it has one, was given and succeeded. -/
def carriesOut (plan : Plan) (disk : Disk) (said : HostTranscript) (step : Step) : Bool :=
  (plan.command? disk step).any fun command => said.accepted command step.needsOutput

theorem carriesOut_append {plan : Plan} {disk : Disk} (said later : HostTranscript) (step : Step) :
    plan.carriesOut disk (said ++ later) step =
      (plan.carriesOut disk said step || plan.carriesOut disk later step) := by
  rw [carriesOut, carriesOut, carriesOut]
  cases plan.command? disk step <;> simp

namespace Attempted

variable {plan : Plan} {step : Step} {status : Status} {own : HostTranscript} {disk : Disk}

/-- A vital step fails if and only if it is not carried out. -/
theorem isFailed_eq (attempted : plan.Attempted step status own) (vital : step.isVital)
    (finds : plan.Finds disk own) : status.isFailed = !plan.carriesOut disk own step := by
  have ordinary : step ≠ .restoreMedia := by rintro rfl; cases vital
  have carried : plan.carriesOut disk own step = true ↔ status = .succeeded := by
    rw [attempted.passed ordinary, carriesOut, Option.any_eq_true]
    refine ⟨fun ⟨command, _, accepted⟩ => ⟨command, accepted⟩, fun ⟨command, accepted⟩ => ?_⟩
    have given := HostTranscript.mem_commands_of_accepted accepted
    rw [attempted.follows disk finds, Option.mem_toList] at given
    exact ⟨command, given, accepted⟩
  have settled := attempted.settled ordinary
  cases status with
  | succeeded => simp [Status.isFailed, carried.2 rfl]
  | failed failure => simpa [Status.isFailed] using carried
  | skipped => exact absurd rfl settled

/-- An attempt carries out no other vital step. -/
theorem carriesOut_eq_false {other : Step} (attempted : plan.Attempted step status own)
    (finds : plan.Finds disk own) (vital : other.isVital) (ne : step ≠ other) :
    plan.carriesOut disk own other = false := by
  rw [carriesOut]
  cases planned : plan.command? disk other with
  | none => rfl
  | some command =>
    refine HostTranscript.accepted_eq_false _ fun given => ne ?_
    rw [attempted.follows disk finds, Option.mem_toList] at given
    exact eq_of_isVital vital planned given

end Attempted

namespace Taken

variable {plan : Plan} {steps : List Step} {results : List (Step × Status)}
  {abortedAt : Option Step} {said : HostTranscript} {disk : Disk}

/-- The run ended at the first vital step that was not carried out. -/
theorem aborted_eq (taken : plan.Taken steps results abortedAt said) (distinct : steps.Nodup)
    (finds : plan.Finds disk said) :
    abortedAt = steps.find? fun step => step.isVital && !plan.carriesOut disk said step := by
  induction taken with
  | nil => rfl
  | stop attempted failed vital =>
    rw [List.find?_cons_of_pos]
    rw [vital, ← attempted.isFailed_eq vital finds, failed, Bool.and_true]
  | @cons step rest status own later results abortedAt attempted passed taken ih =>
    obtain ⟨fresh, distinct⟩ := List.nodup_cons.1 distinct
    obtain ⟨now, then_⟩ := finds.of_append
    rw [List.find?_cons_of_neg, ih distinct then_]
    · refine List.find?_congr fun other mem => ?_
      cases vital : other.isVital with
      | false => rfl
      | true =>
        have ne : step ≠ other := fun h => fresh (h ▸ mem)
        rw [carriesOut_append, attempted.carriesOut_eq_false now vital ne, Bool.false_or]
    · cases vital : step.isVital with
      | false => simp
      | true =>
        rw [vital, Bool.and_true, attempted.isFailed_eq vital now, Bool.not_eq_eq_eq_not] at passed
        simp [carriesOut_append, passed]

end Taken

end Plan

end AssetSeed.Restore
