import AssetSeed.Proofs.Restore.Course

/-!
# The whole restore

Only the vital commands decide how far a restore comes. Apart from this, no command depends on the
answers to the earlier ones.

## Main definitions

* `Restore.Outcome.Fails` — a step was taken and failed.
* `Restore.Plan.Planned` — what came of a restore, and the commands that it gave.
* `Restore.Plan.Agree` — the same vital commands succeeded in two restores.

## Main statements

* `Restore.Plan.run_planned` — the course of a restore, and all that may change it.
* `Restore.Plan.finds_quietHost` — a restore finds the files as they were.
* `Restore.Plan.run_restarts` — what was stopped is started again unless a vital step failed.
-/

namespace AssetSeed.Restore

namespace Outcome

/-- The step was taken and failed. -/
def Fails (outcome : Outcome) (step : Step) : Prop :=
  ∃ failure, outcome.status? step = some (.failed failure)

theorem status?_eq_some_iff {snapshot : Path} {steps : List (Step × Status)}
    {abortedAt : Option Step} {step : Step} {status : Status}
    (distinct : (steps.map (·.1)).Nodup) :
    Outcome.status? { snapshot, steps, abortedAt } step = some status ↔ (step, status) ∈ steps := by
  rw [status?, Option.map_eq_some_iff]
  constructor
  · rintro ⟨⟨other, status⟩, found, rfl⟩
    have same : other = step := by simpa using List.find?_some found
    subst same
    exact List.mem_of_find?_eq_some found
  · intro mem
    cases found : steps.find? fun entry => entry.1 = step with
    | none => exact absurd (List.find?_eq_none.1 found _ mem) (by simp)
    | some entry =>
      have same : entry.1 = step := by simpa using List.find?_some found
      have mem' := List.mem_of_find?_eq_some found
      exact ⟨entry, rfl, congrArg Prod.snd (List.inj_on_of_nodup_map distinct mem' mem same)⟩

end Outcome

namespace Plan

/-- What came of a restore, and the commands that it gave. -/
structure Planned (plan : Plan) (outcome : Outcome) (said : HostTranscript) : Prop where
  listed : outcome.steps.map (·.1) <+: Step.all
  distinct : (outcome.steps.map (·.1)).Nodup
  cut_iff : outcome.steps.map (·.1) ≠ Step.all ↔
    outcome.Fails .createDatabase ∨ outcome.Fails .loadSnapshot
  /-- The step that ended the restore is named, and is the last one. -/
  ended : ∀ step, step = .createDatabase ∨ step = .loadSnapshot → outcome.Fails step →
    outcome.abortedAt = some step ∧ (outcome.steps.map (·.1)).getLast? = some step
  whole_iff : outcome.abortedAt = none ↔ outcome.steps.map (·.1) = Step.all
  succeeded_iff : outcome.succeeded ↔ outcome.abortedAt = none
  /-- Only the listed steps gave commands, in their order, and each its own. -/
  issued : ∃ disks : Step → Disk, said.commands =
    (outcome.steps.map (·.1)).filterMap fun step => plan.command? (disks step) step
  /-- Where the dump was loaded, its users were removed before anything was started on it. -/
  stripped : ∀ dump, said.accepted (plan.loadCommand dump) true → ∃ before after,
    said.commands = before ++ plan.loadCommand dump :: plan.statementCommand describeStatement ::
      plan.statementCommand stripStatement :: supervise "start" :: after ∧
    supervise "start" ∉ before

namespace Taken

variable {plan : Plan} {results : List (Step × Status)} {abortedAt : Option Step}
  {said : HostTranscript}

theorem listed_all (taken : plan.Taken Step.all results abortedAt said) :
    results.map (·.1) = Step.upTo abortedAt Step.all :=
  taken.listed Step.nodup_all

theorem abortedAt_cases (taken : plan.Taken Step.all results abortedAt said) :
    abortedAt = none ∨ abortedAt = some .createDatabase ∨ abortedAt = some .loadSnapshot := by
  cases ended : abortedAt with
  | none => exact .inl rfl
  | some step =>
    subst ended
    exact .inr ((Step.isVital_iff.1 taken.last.1).imp (congrArg some) (congrArg some))

theorem distinct (taken : plan.Taken Step.all results abortedAt said) :
    (results.map (·.1)).Nodup := by
  rw [taken.listed_all]
  exact Step.nodup_all.sublist (Step.upTo_prefix _ _).sublist

theorem fails_iff {step : Step} (taken : plan.Taken Step.all results abortedAt said) :
    Outcome.Fails { snapshot := plan.snapshot, steps := results, abortedAt := abortedAt } step ↔
      ∃ status, (step, status) ∈ results ∧ status.isFailed := by
  have found : ∀ status, Outcome.status? ⟨plan.snapshot, results, abortedAt⟩ step = some status ↔
      (step, status) ∈ results := fun _ => Outcome.status?_eq_some_iff taken.distinct
  refine ⟨fun ⟨failure, h⟩ => ⟨_, (found _).1 h, rfl⟩, fun ⟨status, mem, failed⟩ => ?_⟩
  cases status with
  | failed failure => exact ⟨failure, (found _).2 mem⟩
  | succeeded => cases failed
  | skipped => cases failed

/-- Where the snapshot was loaded, nothing ended the restore. -/
theorem whole_of_loaded (taken : plan.Taken Step.all results abortedAt said)
    (loaded : (.loadSnapshot, .succeeded) ∈ results) : abortedAt = none := by
  have listed : .loadSnapshot ∈ Step.upTo abortedAt Step.all :=
    taken.listed_all ▸ List.mem_map_of_mem loaded
  rcases taken.abortedAt_cases with rfl | rfl | rfl
  · rfl
  · exact absurd listed (by decide)
  · obtain ⟨-, status, last, failed⟩ := taken.last
    cases List.inj_on_of_nodup_map taken.distinct (List.mem_of_getLast? last) loaded rfl
    cases failed

theorem whole_iff (taken : plan.Taken Step.all results abortedAt said) :
    abortedAt = none ↔ results.map (·.1) = Step.all := by
  rw [taken.listed_all]
  rcases taken.abortedAt_cases with rfl | rfl | rfl
  · exact iff_of_true rfl (Step.upTo_none _)
  · exact iff_of_false nofun (by decide)
  · exact iff_of_false nofun (by decide)

theorem cut_iff (taken : plan.Taken Step.all results abortedAt said) :
    results.map (·.1) ≠ Step.all ↔
      Outcome.Fails ⟨plan.snapshot, results, abortedAt⟩ .createDatabase ∨
        Outcome.Fails ⟨plan.snapshot, results, abortedAt⟩ .loadSnapshot := by
  rw [Ne, ← taken.whole_iff]
  constructor
  · intro early
    obtain ⟨step, rfl⟩ := Option.ne_none_iff_exists'.1 early
    obtain ⟨vital, status, last, failed⟩ := taken.last
    have fails := taken.fails_iff.2 ⟨status, List.mem_of_getLast? last, failed⟩
    rcases Step.isVital_iff.1 vital with rfl | rfl
    · exact .inl fails
    · exact .inr fails
  · rintro (fails | fails) <;>
      obtain ⟨status, mem, failed⟩ := taken.fails_iff.1 fails <;>
      simp [taken.ended mem failed rfl]

theorem succeeded_iff (taken : plan.Taken Step.all results abortedAt said) :
    Outcome.succeeded ⟨plan.snapshot, results, abortedAt⟩ ↔ abortedAt = none := by
  rw [Outcome.succeeded, decide_eq_true_iff, Outcome.status?_eq_some_iff taken.distinct]
  refine ⟨taken.whole_of_loaded, ?_⟩
  rintro rfl
  have listed : .loadSnapshot ∈ results.map (·.1) := taken.whole_iff.1 rfl ▸ by decide
  obtain ⟨⟨step, status⟩, mem, rfl⟩ := List.mem_map.1 listed
  obtain ⟨own, attempted⟩ := taken.attempted mem
  cases status with
  | succeeded => exact mem
  | failed failure => cases taken.ended mem rfl rfl
  | skipped => exact absurd rfl (attempted.settled nofun)

/-- The dump was loaded by the step that is for it. -/
theorem loaded {dump : Bytes} (taken : plan.Taken Step.all results abortedAt said)
    (accepted : said.accepted (plan.loadCommand dump) true) :
    (.loadSnapshot, .succeeded) ∈ results := by
  obtain ⟨⟨step, status⟩, mem, own, attempted, accepted⟩ := taken.exists_accepted accepted
  have given := HostTranscript.mem_commands_of_accepted accepted
  obtain ⟨disk, commands⟩ := attempted.planned
  rw [commands, Option.mem_toList] at given
  obtain rfl := step_of_loadCommand given
  obtain rfl : status = .succeeded := (attempted.passed nofun).2 ⟨_, accepted⟩
  exact mem

theorem stripped {dump : Bytes} (taken : plan.Taken Step.all results abortedAt said)
    (accepted : said.accepted (plan.loadCommand dump) true) : ∃ before after,
      said.commands = before ++ plan.loadCommand dump :: plan.statementCommand describeStatement ::
        plan.statementCommand stripStatement :: supervise "start" :: after ∧
      supervise "start" ∉ before := by
  have given := HostTranscript.mem_commands_of_accepted accepted
  obtain ⟨disks, commands⟩ := taken.planned Step.nodup_all
  rw [taken.whole_iff.1 (taken.whole_of_loaded (taken.loaded accepted))] at commands
  rw [commands] at given
  obtain ⟨step, -, planned⟩ := List.mem_filterMap.1 given
  obtain rfl := step_of_loadCommand planned
  let issue : List Step → List Command := List.filterMap fun step => plan.command? (disks step) step
  refine ⟨issue [.stopDependents, .dropDatabase, .createDatabase, .grantPrivileges],
    issue [.runMigrations, .recreateAdmin, .restoreMedia], ?_, fun mem => ?_⟩
  · rw [commands]
    simp only [issue, Step.all, List.filterMap_cons, planned]
    rfl
  · obtain ⟨step, early, start⟩ := List.mem_filterMap.1 mem
    obtain rfl := command?_eq_start_iff.1 start
    exact absurd early (by decide)

end Taken

theorem planned_of_taken {plan : Plan} {results : List (Step × Status)} {abortedAt : Option Step}
    {said : HostTranscript} (taken : plan.Taken Step.all results abortedAt said) :
    plan.Planned { snapshot := plan.snapshot, steps := results, abortedAt := abortedAt } said where
  listed := by
    rw [taken.listed_all]
    exact Step.upTo_prefix _ _
  distinct := taken.distinct
  cut_iff := taken.cut_iff
  ended := by
    rintro step vital fails
    obtain ⟨status, mem, failed⟩ := taken.fails_iff.1 fails
    obtain rfl := taken.ended mem failed (Step.isVital_iff.2 vital)
    obtain ⟨-, status, last, -⟩ := taken.last
    exact ⟨rfl, by rw [List.getLast?_map, last]; rfl⟩
  whole_iff := taken.whole_iff
  succeeded_iff := taken.succeeded_iff
  issued := taken.planned Step.nodup_all
  stripped := fun dump accepted => taken.stripped accepted

/-- The command of each vital step succeeded in both transcripts, or in neither. -/
def Agree (plan : Plan) (disk : Disk) (said said' : HostTranscript) : Prop :=
  ∀ step, step.isVital → plan.carriesOut disk said step = plan.carriesOut disk said' step

/-- Runs on the same files give the same commands if the same vital commands succeed. -/
theorem Taken.commands_eq {plan : Plan} {results results' : List (Step × Status)}
    {abortedAt abortedAt' : Option Step} {said said' : HostTranscript} {disk : Disk}
    (taken : plan.Taken Step.all results abortedAt said)
    (taken' : plan.Taken Step.all results' abortedAt' said') (finds : plan.Finds disk said)
    (finds' : plan.Finds disk said') (agree : plan.Agree disk said said') :
    said'.commands = said.commands := by
  have ended : abortedAt' = abortedAt := by
    rw [taken.aborted_eq Step.nodup_all finds, taken'.aborted_eq Step.nodup_all finds']
    refine List.find?_congr fun step _ => ?_
    cases vital : step.isVital with
    | false => rfl
    | true => rw [agree step vital]
  rw [taken.follows finds, taken'.follows finds', taken.listed_all, taken'.listed_all, ended]

section Run

variable {σ : Type} (plan : Plan) (respond : Responder HostProtocol σ) (s : σ)

theorem run_taken : ∃ results abortedAt,
    (plan.run.run respond s).1 = ⟨plan.snapshot, results, abortedAt⟩ ∧
      plan.Taken Step.all results abortedAt (plan.run.exchanges respond s) := by
  have ensured : plan.run.Ensures Conduct.recorded (fun outcome said => ∃ results abortedAt,
      outcome = ⟨plan.snapshot, results, abortedAt⟩ ∧
        plan.Taken Step.all results abortedAt said) [] := by
    refine (plan.ensures_takeSteps Step.all []).bind ?_
    rintro ⟨results, abortedAt⟩ _ ⟨own, rfl, taken⟩
    exact ⟨results, abortedAt, rfl, taken⟩
  exact ensured.exchanges s

end Run

/-! ## Commands that leave the disk alone -/

/-- Until something is stored, a quiet host shows the disk that it had. -/
theorem shown_quietHost {α σ : Type} (runner : Runner σ) (dialogue : HostDialogue α) (s : σ)
    (disk : Disk)
    (fresh : HostTranscript.Fresh (dialogue.exchanges (quietHost runner) (s, disk)))
    (shown : Disk) (mem : (⟨.disk, shown⟩ : Exchange HostProtocol) ∈
      dialogue.exchanges (quietHost runner) (s, disk)) : shown = disk := by
  induction dialogue generalizing s with
  | done value => cases mem
  | ask request next ih =>
    obtain ⟨first, fresh⟩ := List.pairwise_cons.1 fresh
    rcases List.mem_cons.1 mem with now | later
    · cases now; rfl
    · cases request with
      | run command => exact ih _ _ fresh later
      | disk => exact ih _ _ fresh later
      | save other => cases first _ later rfl

/-- A restore finds the files as they were if its commands leave the disk alone. -/
theorem finds_quietHost {σ : Type} (plan : Plan) (runner : Runner σ) (s : σ) (disk : Disk) :
    plan.Finds disk (plan.run.exchanges (quietHost runner) (s, disk)) := by
  obtain ⟨results, abortedAt, -, taken⟩ := plan.run_taken (quietHost runner) (s, disk)
  intro shown mem
  obtain rfl := shown_quietHost runner plan.run s disk (taken.fresh (by decide)) shown mem
  exact ⟨rfl, rfl⟩

/-! ## Main statements -/

section Run

variable {σ : Type} (plan : Plan) (respond : Responder HostProtocol σ) (s : σ)

/-- A restore lists its steps up to a vital one that failed, and has succeeded if there was none.
Its commands are settled by the files and by the success of the vital commands. -/
theorem run_planned :
    plan.Planned (plan.run.run respond s).1 (plan.run.exchanges respond s) ∧
      ∀ (τ : Type) (respond' : Responder HostProtocol τ) (s' : τ) (disk : Disk),
        plan.Finds disk (plan.run.exchanges respond s) →
        plan.Finds disk (plan.run.exchanges respond' s') →
        plan.Agree disk (plan.run.exchanges respond s) (plan.run.exchanges respond' s') →
        HostTranscript.commands (plan.run.exchanges respond' s') =
          HostTranscript.commands (plan.run.exchanges respond s) := by
  obtain ⟨results, abortedAt, outcome, taken⟩ := plan.run_taken respond s
  refine ⟨outcome ▸ planned_of_taken taken, fun τ respond' s' disk finds finds' agree => ?_⟩
  obtain ⟨results', abortedAt', -, taken'⟩ := plan.run_taken respond' s'
  exact taken.commands_eq taken' finds finds' agree

end Run

/-- Commands of these programs do not start; others succeed, with some output. -/
def unwilling (programs : List String) : Runner Unit :=
  fun command _ =>
    if programs.contains command.program then (.error { cause := .other "not started" }, ())
    else (.ok { code := some 0, lines := ["ok"] }, ())

/-- A plan for a snapshot that is not compressed. -/
def plainPlan : Plan where
  postgres := { host := "localhost", db := "netbox", user := "netbox", password := "secret" }
  install := { dir := ⟨"/opt"⟩, superuserScript := ⟨"/superuser.py"⟩ }
  snapshot := ⟨"/snapshot"⟩

def plainDisk : Disk where
  tree := .dir [("snapshot", .file { content := [45, 45] })]

/-- What is said in a restore by the plan if programs of these names do not start. -/
def plainRun (programs : List String) : HostTranscript :=
  plainPlan.run.exchanges (quietHost (unwilling programs)) ((), plainDisk)

theorem plainRun_agree :
    plainPlan.Agree plainDisk (plainRun []) (plainRun ["bash", "dropdb"]) := by
  intro step vital
  rcases Step.isVital_iff.1 vital with rfl | rfl <;> decide +kernel

/-- The dump is loaded, and whether anything can be stopped or dropped changes no command. -/
theorem run_planned_unwilling :
    (plainRun []).accepted (plainPlan.loadCommand [45, 45]) true ∧
      plainPlan.Agree plainDisk (plainRun []) (plainRun ["bash", "dropdb"]) ∧
      (plainRun ["bash", "dropdb"]).commands = (plainRun []).commands := by
  refine ⟨by decide +kernel, plainRun_agree, ?_⟩
  exact (plainPlan.run_planned (quietHost (unwilling [])) ((), plainDisk)).2 _
    (quietHost (unwilling ["bash", "dropdb"])) ((), plainDisk) plainDisk
    (plainPlan.finds_quietHost _ _ _) (plainPlan.finds_quietHost _ _ _) plainRun_agree

/-! ## What was stopped -/

namespace Taken

variable {plan : Plan} {results : List (Step × Status)} {abortedAt : Option Step}
  {said : HostTranscript}

/-- The first command stops what is running. Of the later ones none does, and one starts it again
unless a vital step failed. -/
theorem restarts (taken : plan.Taken Step.all results abortedAt said) :
    ∃ later, said.commands = supervise "stop" :: later ∧ supervise "stop" ∉ later ∧
      (supervise "start" ∈ later ↔ results.map (·.1) = Step.all) := by
  obtain ⟨disks, commands⟩ := taken.planned Step.nodup_all
  have split : ∃ rest, results.map (·.1) = .stopDependents :: rest ∧ .stopDependents ∉ rest ∧
      (.startDependents ∈ rest ↔ .stopDependents :: rest = Step.all) := by
    rw [taken.listed_all]
    rcases taken.abortedAt_cases with rfl | rfl | rfl
    · exact ⟨_, Step.upTo_none _, by decide⟩
    · exact ⟨_, rfl, by decide⟩
    · exact ⟨_, rfl, by decide⟩
  obtain ⟨rest, listed, once, restarted⟩ := split
  rw [listed, List.filterMap_cons] at commands
  refine ⟨_, commands, fun mem => ?_, ?_⟩
  · obtain ⟨step, mem, stops⟩ := List.mem_filterMap.1 mem
    obtain rfl := command?_eq_stop_iff.1 stops
    exact once mem
  · rw [listed, ← restarted, List.mem_filterMap]
    refine ⟨fun ⟨step, mem, starts⟩ => ?_, fun mem => ⟨_, mem, command?_eq_start_iff.2 rfl⟩⟩
    obtain rfl := command?_eq_start_iff.1 starts
    exact mem

end Taken

/-- A restore first stops what is running, and starts it again unless a vital step failed. -/
theorem run_restarts {σ : Type} (plan : Plan) (respond : Responder HostProtocol σ) (s : σ) :
    ∃ later, HostTranscript.commands (plan.run.exchanges respond s) = supervise "stop" :: later ∧
      supervise "stop" ∉ later ∧ (supervise "start" ∈ later ↔
        ¬ ((plan.run.run respond s).1.Fails .createDatabase ∨
          (plan.run.run respond s).1.Fails .loadSnapshot)) := by
  obtain ⟨results, abortedAt, outcome, taken⟩ := plan.run_taken respond s
  obtain ⟨later, commands, once, restarted⟩ := taken.restarts
  refine ⟨later, commands, once, ?_⟩
  rw [outcome, ← taken.cut_iff, not_not]
  exact restarted

/-- Where the database cannot be created, what was stopped stays so. -/
theorem run_leaves_stopped :
    supervise "stop" ∈ (plainRun ["createdb"]).commands ∧
      supervise "start" ∉ (plainRun ["createdb"]).commands := by
  decide +kernel

end Plan

end AssetSeed.Restore
