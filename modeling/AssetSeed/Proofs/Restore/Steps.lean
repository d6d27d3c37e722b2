import AssetSeed.Proofs.Dialogue.Ensures
import AssetSeed.Proofs.Restore.Transcript

/-!
# One step of a restore

Which command a step gives is settled by the plan and by two files, the snapshot and the script
that creates the administrator. Whether the step fails is settled by the answer to this command.

## Main definitions

* `Restore.Plan.dump`, `Restore.Plan.script` — what is read from the two files.
* `Restore.Plan.command?` — the command of a step.
* `Restore.Plan.Finds` — all that was seen of the two files is what a disk has in them.
* `Restore.Plan.Attempted` — the command of a step was given, and its answer was the status.

## Main statements

* `Restore.Plan.attempts_attempt` — whatever the host answers, a step is attempted.
* `Restore.Plan.eq_of_isVital` — the commands of vital steps are theirs alone.
-/

namespace AssetSeed

namespace Restore

/-! ## Work that only stores -/

namespace Work

variable {α β : Type}

/-- Work that gives no command and does not look at the disk. -/
def Stores (work : Work α) : Prop :=
  ∀ said : HostTranscript, work.run.Ensures Conduct.recorded
    (fun _ said' => ∃ saved, said' = said ++ saved ∧ ∀ exchange ∈ saved, exchange.isSave) said

theorem Stores.pure (value : α) : (Pure.pure value : Work α).Stores :=
  fun said => ⟨[], (List.append_nil said).symm, nofun⟩

theorem Stores.ofFile (context : String) (result : Except FileError α) :
    (ofFile context result).Stores := by
  cases result <;> exact fun said => ⟨[], (List.append_nil said).symm, nofun⟩

theorem Stores.save (disk : Disk) : Stores (ExceptT.lift (Host.save disk)) := by
  rintro said answer _ rfl
  exact ⟨_, rfl, by simp [Exchange.isSave]⟩

theorem Stores.bind {work : Work α} {rest : α → Work β} (first : work.Stores)
    (then_ : ∀ value, (rest value).Stores) : (work >>= rest).Stores := by
  intro said
  refine Dialogue.Ensures.bind (first said) ?_
  rintro (failure | value) _ ⟨saved, rfl, saves⟩
  · exact ⟨saved, rfl, saves⟩
  · refine (then_ value _).mono ?_
    rintro _ _ ⟨later, rfl, saves'⟩
    refine ⟨saved ++ later, List.append_assoc .., ?_⟩
    exact List.forall_mem_append.2 ⟨saves, saves'⟩

end Work

end Restore

namespace Restore.Plan

/-! ## The plan of commands -/

/-- The content of the snapshot, decompressed if need be. -/
def dump (plan : Plan) (disk : Disk) : Except Failure Bytes :=
  match disk.read plan.snapshot with
  | .error e => .error { cause := .file e, contexts := ["Failed to read " ++ plan.snapshot.text] }
  | .ok raw =>
    if Archive.Gzip.isCompressed raw then
      let content := Archive.Gzip.decode raw
      if content.sound then .ok content.bytes
      else .error
        { cause := .file (.invalidContent "corrupt data")
          contexts := ["Failed to decompress " ++ plan.snapshot.text] }
    else .ok raw

/-- The script that creates the administrator. -/
def script (plan : Plan) (disk : Disk) : Except Failure Bytes :=
  match disk.read plan.install.superuserScript with
  | .error e => .error
    { cause := .file e, contexts := ["Failed to read " ++ plan.install.superuserScript.text] }
  | .ok content => .ok content

def scriptCommand (plan : Plan) (content : Bytes) : Command :=
  plan.manageCommand ["shell", "--interface", "python"] (some content)

/-- The command of a step. One that passes on a file has none where the file cannot be read. -/
def command? (plan : Plan) (disk : Disk) : Step → Option Command
  | .stopDependents => some (supervise "stop")
  | .dropDatabase => some plan.dropCommand
  | .createDatabase => some plan.createCommand
  | .grantPrivileges => some (plan.statementCommand plan.grantStatement)
  | .loadSnapshot => (plan.dump disk).toOption.map plan.loadCommand
  | .describePrefixes => some (plan.statementCommand describeStatement)
  | .stripSecrets => some (plan.statementCommand stripStatement)
  | .startDependents => some (supervise "start")
  | .runMigrations => some (plan.manageCommand ["migrate"] none)
  | .recreateAdmin => (plan.script disk).toOption.map plan.scriptCommand
  | .restoreMedia => none


/-! ## Attempts -/

/-- The status in which work ends. -/
def settle (work : Work Status) : HostDialogue Status := do
  match ← work.run with
  | .ok status => return status
  | .error failure => return .failed failure

theorem attempt_eq (plan : Plan) (step : Step) : plan.attempt step = settle (plan.work step) := rfl

theorem settle_perform (command : Command) (needsOutput : Bool) :
    settle (do Work.perform command needsOutput; return .succeeded) =
      Host.run command >>= fun answer => pure (Work.judge needsOutput answer) := by
  refine congrArg (Dialogue.ask _) (funext fun answer => ?_)
  cases answer with
  | error failure => rfl
  | ok completion =>
    simp only [Work.judge, Dialogue.bind, ExceptT.bindCont]
    cases Work.complaint? needsOutput completion <;> rfl

/-- Work that begins with a look at the disk. -/
theorem settle_look {α : Type} (content : Disk → Except Failure α) (rest : α → Work Status) :
    settle (ExceptT.mk (Host.disk >>= fun disk => pure (content disk)) >>= rest) =
      Host.disk >>= fun disk =>
        match content disk with
        | .error failure => pure (.failed failure)
        | .ok value => settle (rest value) := by
  refine congrArg (Dialogue.ask _) (funext fun disk => ?_)
  simp only [Dialogue.bind]
  cases content disk <;> rfl

theorem readDump_eq (plan : Plan) : plan.readDump =
    ExceptT.mk (Host.disk >>= fun disk => pure (plan.dump disk)) := by
  rw [readDump, Work.disk]
  refine congrArg (Dialogue.ask _) (funext fun disk => ?_)
  simp only [dump, Dialogue.map, Dialogue.bind, ExceptT.bindCont]
  cases disk.read plan.snapshot with
  | error e => rfl
  | ok raw =>
    simp only [Work.ofFile, pure_bind]
    split
    · split <;> rfl
    · rfl

theorem work_recreateAdmin (plan : Plan) : plan.work .recreateAdmin =
    ExceptT.mk (Host.disk >>= fun disk => pure (plan.script disk)) >>= fun content => do
      Work.perform (plan.scriptCommand content) true
      return .succeeded := by
  rw [work, Work.disk]
  refine congrArg (Dialogue.ask _) (funext fun disk => ?_)
  simp only [script, Dialogue.map, Dialogue.bind, ExceptT.bindCont]
  cases disk.read plan.install.superuserScript <;> rfl

/-! ## The media -/

/-- What is done about the media once the disk is known. -/
def storeMedia (plan : Plan) (disk : Disk) : Work Status := do
  let archive := Snapshot.mediaArchive plan.snapshot
  let target := plan.install.mediaDir
  if !disk.isFile archive || !disk.isDir target then return .skipped
  let (_, disk) ← Work.ofFile ("Failed to prune " ++ target.text) (disk.pruneDir target)
  ExceptT.lift (Host.save disk)
  let raw ← Work.ofFile ("Failed to open " ++ archive.text) (disk.read archive)
  let context := "Failed to extract " ++ archive.text
  let (failure, disk) ← Work.ofFile context (disk.extractInto raw target)
  ExceptT.lift (Host.save disk)
  match failure with
  | none => return .succeeded
  | some e => Work.ofFile context (.error e)

theorem stores_storeMedia (plan : Plan) (disk : Disk) : (plan.storeMedia disk).Stores := by
  rw [storeMedia]
  refine iteInduction (fun _ => .pure _) fun _ => ?_
  refine (Work.Stores.ofFile _ _).bind fun (_, disk) => ?_
  refine (Work.Stores.save disk).bind fun _ => ?_
  refine (Work.Stores.ofFile _ _).bind fun raw => ?_
  refine (Work.Stores.ofFile _ _).bind fun (failure, disk) => ?_
  refine (Work.Stores.save disk).bind fun _ => ?_
  cases failure with
  | none => exact .pure _
  | some e => exact .ofFile _ _

/-! ## What an attempt amounts to -/

/-- All that was seen of the two files is what the disk has in them. -/
def Finds (plan : Plan) (disk : Disk) (said : HostTranscript) : Prop :=
  ∀ shown, (⟨.disk, shown⟩ : Exchange HostProtocol) ∈ said →
    plan.dump shown = plan.dump disk ∧ plan.script shown = plan.script disk

/-- The step gave the command that the plan has for it, with the files as they were seen, and its
status is what came of this command. Only the media are stored on the disk. -/
structure Attempted (plan : Plan) (step : Step) (status : Status) (own : HostTranscript) :
    Prop where
  planned : ∃ disk, own.commands = (plan.command? disk step).toList
  follows : ∀ disk, plan.Finds disk own → own.commands = (plan.command? disk step).toList
  passed : step ≠ .restoreMedia →
    (status = .succeeded ↔ ∃ command, own.accepted command step.needsOutput)
  settled : step ≠ .restoreMedia → status ≠ .skipped
  unsaved : step ≠ .restoreMedia → ∀ exchange ∈ own, exchange.isSave = false
  fresh : own.Fresh

theorem Finds.of_append {plan : Plan} {disk : Disk} {said later : HostTranscript}
    (finds : plan.Finds disk (said ++ later)) : plan.Finds disk said ∧ plan.Finds disk later :=
  ⟨fun shown mem => finds shown (List.mem_append_left _ mem),
    fun shown mem => finds shown (List.mem_append_right _ mem)⟩

section

variable {plan : Plan} {step : Step} {looks : HostTranscript} {disk : Disk}

/-- A step that gave its command, perhaps after a look at the disk. -/
theorem attempted_run {command : Command} (looked : ∀ exchange ∈ looks, exchange.isLook)
    (found : plan.Finds disk looks)
    (planned : ∀ disk, plan.Finds disk looks → plan.command? disk step = some command)
    (answer : Except Failure Completion) :
    plan.Attempted step (Work.judge step.needsOutput answer)
      (looks ++ [⟨.run command, answer⟩]) := by
  have silent : looks.commands = [] := HostTranscript.commands_eq_nil fun exchange mem =>
    (Exchange.of_isLook (looked exchange mem)).1
  have commands : HostTranscript.commands (looks ++ [⟨.run command, answer⟩]) = [command] := by
    rw [HostTranscript.commands_append, silent, HostTranscript.commands_run, List.nil_append]
  have unsaved : ∀ exchange ∈ looks ++ [⟨.run command, answer⟩], exchange.isSave = false := by
    refine List.forall_mem_append.2 ⟨fun exchange mem => ?_, List.forall_mem_singleton.2 rfl⟩
    exact (Exchange.of_isLook (looked exchange mem)).2
  have unaccepted : ∀ given, looks.accepted given step.needsOutput = false := fun given =>
    HostTranscript.accepted_eq_false _ (silent ▸ List.not_mem_nil)
  exact {
    planned := ⟨disk, by rw [commands, planned disk found, Option.toList_some]⟩
    follows := fun other finds => by
      rw [commands, planned other finds.of_append.1, Option.toList_some]
    passed := fun _ => by
      simp [unaccepted, HostTranscript.accepted_run, Work.judge_eq_succeeded_iff]
    settled := fun _ => Work.judge_ne_skipped _ _
    unsaved := fun _ => unsaved
    fresh := HostTranscript.fresh_of_unsaved unsaved }

/-- A step that could not read the file that it passes on. -/
theorem attempted_unread (looked : ∀ exchange ∈ looks, exchange.isLook)
    (found : plan.Finds disk looks)
    (planned : ∀ disk, plan.Finds disk looks → plan.command? disk step = none)
    (failure : Failure) : plan.Attempted step (.failed failure) looks := by
  have silent : looks.commands = [] := HostTranscript.commands_eq_nil fun exchange mem =>
    (Exchange.of_isLook (looked exchange mem)).1
  have unsaved : ∀ exchange ∈ looks, exchange.isSave = false := fun exchange mem =>
    (Exchange.of_isLook (looked exchange mem)).2
  exact {
    planned := ⟨disk, by rw [silent, planned disk found, Option.toList_none]⟩
    follows := fun other finds => by rw [silent, planned other finds, Option.toList_none]
    passed := fun _ => by
      refine ⟨nofun, fun ⟨given, accepted⟩ => ?_⟩
      have mem := HostTranscript.mem_commands_of_accepted accepted
      exact absurd (silent ▸ mem) List.not_mem_nil
    settled := fun _ => nofun
    unsaved := fun _ => unsaved
    fresh := HostTranscript.fresh_of_unsaved unsaved }

end

/-- The media are stored without a command, after a look at the disk. -/
theorem attempted_restoreMedia {plan : Plan} {status : Status} {shown : Disk}
    {saved : HostTranscript} (saves : ∀ exchange ∈ saved, exchange.isSave) :
    plan.Attempted .restoreMedia status (⟨.disk, shown⟩ :: saved) := by
  have silent : HostTranscript.commands (⟨.disk, shown⟩ :: saved) = [] := by
    refine HostTranscript.commands_eq_nil (List.forall_mem_cons.2 ⟨rfl, fun exchange mem => ?_⟩)
    exact (Exchange.of_isSave (saves exchange mem)).1
  exact {
    planned := ⟨default, silent⟩
    follows := fun _ _ => silent
    passed := fun ne => absurd rfl ne
    settled := fun ne => absurd rfl ne
    unsaved := fun ne => absurd rfl ne
    fresh := List.pairwise_cons.2 ⟨fun _ _ => nofun, List.pairwise_of_forall_mem_list
      fun _ _ later mem _ => (Exchange.of_isSave (saves later mem)).2⟩ }

/-- Whatever the host answers, the dialogue comes to an attempt of the step. -/
def Attempts (plan : Plan) (step : Step) (dialogue : HostDialogue Status) : Prop :=
  ∀ said : HostTranscript, dialogue.Ensures Conduct.recorded
    (fun status said' => ∃ own, said' = said ++ own ∧ plan.Attempted step status own) said

theorem attempts_perform {plan : Plan} {step : Step} {command : Command}
    (planned : ∀ disk, plan.command? disk step = some command) :
    plan.Attempts step
      (settle (do Work.perform command step.needsOutput; return .succeeded)) := by
  intro said
  rw [settle_perform]
  rintro answer _ rfl
  have looked : ∀ exchange ∈ ([] : HostTranscript), exchange.isLook := nofun
  have found : plan.Finds default [] := nofun
  refine ⟨_, rfl, attempted_run looked found ?_ answer⟩
  exact fun disk _ => planned disk

theorem attempts_deliver {plan : Plan} {step : Step} {content : Disk → Except Failure Bytes}
    {command : Bytes → Command}
    (agree : ∀ disk shown, plan.Finds disk [⟨.disk, shown⟩] → content shown = content disk)
    (planned : ∀ disk, plan.command? disk step = (content disk).toOption.map command) :
    plan.Attempts step
      (settle (ExceptT.mk (Host.disk >>= fun disk => pure (content disk)) >>= fun bytes => do
        Work.perform (command bytes) step.needsOutput
        return .succeeded)) := by
  intro said
  rw [settle_look]
  rintro shown _ rfl
  have looked : ∀ exchange ∈ [(⟨.disk, shown⟩ : Exchange HostProtocol)], exchange.isLook :=
    List.forall_mem_singleton.2 rfl
  have found : plan.Finds shown [⟨.disk, shown⟩] := by
    intro other mem
    cases List.mem_singleton.1 mem
    exact ⟨rfl, rfl⟩
  simp only [Dialogue.bind]
  cases read : content shown with
  | error failure =>
    refine ⟨_, rfl, attempted_unread looked found (fun disk finds => ?_) failure⟩
    rw [planned, ← agree disk shown finds, read]
    rfl
  | ok bytes =>
    simp only [settle_perform]
    rintro answer _ rfl
    refine ⟨_, List.append_assoc .., attempted_run looked found (fun disk finds => ?_) answer⟩
    rw [planned, ← agree disk shown finds, read]
    rfl

theorem attempts_restoreMedia (plan : Plan) :
    plan.Attempts .restoreMedia (settle plan.restoreMedia) := by
  rintro said shown _ rfl
  refine Dialogue.Ensures.bind (plan.stores_storeMedia shown _) ?_
  rintro result _ ⟨saved, rfl, saves⟩
  cases result <;> exact ⟨_, List.append_assoc .., attempted_restoreMedia saves⟩

theorem attempts_attempt (plan : Plan) (step : Step) : plan.Attempts step (plan.attempt step) := by
  rw [attempt_eq]
  cases step with
  | stopDependents => exact attempts_perform fun _ => rfl
  | dropDatabase => exact attempts_perform fun _ => rfl
  | createDatabase => exact attempts_perform fun _ => rfl
  | grantPrivileges => exact attempts_perform fun _ => rfl
  | loadSnapshot =>
    rw [work, readDump_eq]
    refine attempts_deliver (fun disk shown finds => ?_) fun _ => rfl
    exact (finds shown (List.mem_singleton.2 rfl)).1
  | describePrefixes => exact attempts_perform fun _ => rfl
  | stripSecrets => exact attempts_perform fun _ => rfl
  | startDependents => exact attempts_perform fun _ => rfl
  | runMigrations => exact attempts_perform fun _ => rfl
  | recreateAdmin =>
    rw [work_recreateAdmin]
    refine attempts_deliver (fun disk shown finds => ?_) fun _ => rfl
    exact (finds shown (List.mem_singleton.2 rfl)).2
  | restoreMedia => exact plan.attempts_restoreMedia

/-! ## Telling commands apart -/

/-- Some steps give commands that no other step gives, whatever is on the disk. -/
theorem command?_eq_iff {plan : Plan} {disk shown : Disk} {step own : Step} {command : Command}
    (told : own ∈ [.createDatabase, .stopDependents, .startDependents])
    (given : plan.command? shown own = some command) :
    plan.command? disk step = some command ↔ step = own := by
  simp only [List.mem_cons, List.not_mem_nil, or_false] at told
  rcases told with rfl | rfl | rfl
  all_goals
    cases given
    cases step <;>
      simp [command?, supervise, dropCommand, createCommand, statementCommand, loadCommand,
        scriptCommand, manageCommand, postgresCommand]

theorem step_of_loadCommand {plan : Plan} {disk : Disk} {step : Step} {dump : Bytes}
    (h : plan.command? disk step = some (plan.loadCommand dump)) : step = .loadSnapshot := by
  cases step <;>
    simp [command?, supervise, dropCommand, createCommand, statementCommand, loadCommand,
      scriptCommand, manageCommand, postgresCommand] at h ⊢

/-- The command of a vital step belongs to no other step. -/
theorem eq_of_isVital {plan : Plan} {disk : Disk} {step other : Step} {command : Command}
    (vital : step.isVital) (planned : plan.command? disk step = some command)
    (given : plan.command? disk other = some command) : other = step := by
  cases step <;> cases vital
  case createDatabase => exact (command?_eq_iff (by decide) planned).1 given
  case loadSnapshot =>
    obtain ⟨dump, -, rfl⟩ := Option.map_eq_some_iff.1 planned
    exact step_of_loadCommand given

theorem command?_eq_start_iff {plan : Plan} {disk : Disk} {step : Step} :
    plan.command? disk step = some (supervise "start") ↔ step = .startDependents :=
  have given : plan.command? disk .startDependents = some (supervise "start") := rfl
  command?_eq_iff (by decide) given

theorem command?_eq_stop_iff {plan : Plan} {disk : Disk} {step : Step} :
    plan.command? disk step = some (supervise "stop") ↔ step = .stopDependents :=
  have given : plan.command? disk .stopDependents = some (supervise "stop") := rfl
  command?_eq_iff (by decide) given

end Restore.Plan

end AssetSeed
