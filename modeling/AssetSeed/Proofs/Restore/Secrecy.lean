import AssetSeed.Proofs.Dialogue.Overheard
import AssetSeed.Proofs.Dialogue.Parties
import AssetSeed.Proofs.Restore.Planned

/-!
# The password of a restore

The password of the database server is handed to its programs in their environment, and is found
nowhere else. A restore with another password is the same conversation, with the other password in
this one place.

## Main definitions

* `Command.withPassword` — the command with another password in its environment.
* `Command.passwords` — the passwords that a command is given.
* `Command.redacted` — the command without its password.
* `Host.editing` — passes requests on, with every command edited.
* `Restore.Unaware` — a host whose answers do not depend on passwords.

## Main statements

* `Restore.Plan.run_withPassword` — the restore with another password.
* `Restore.Unaware.run_editing` — what an unaware host makes of edited passwords.
* `Restore.Plan.run_conceals` — nothing but the password's place tells of the password.
-/

namespace AssetSeed

namespace Command

/-- The variable that the programs of the database server take their password from. -/
def passwordName : String :=
  "PGPASSWORD"

def withPassword (password : String) (command : Command) : Command :=
  { command with env := command.env.map fun entry =>
      if entry.1 = passwordName then (entry.1, password) else entry }

/-- The passwords that the command is given. -/
def passwords (command : Command) : List String :=
  (command.env.filter fun entry => entry.1 = passwordName).map (·.2)

def redacted (command : Command) : Command :=
  command.withPassword ""

theorem redacted_withPassword (password : String) (command : Command) :
    (command.withPassword password).redacted = command.redacted := by
  simp only [redacted, withPassword, List.map_map, Command.mk.injEq, true_and, and_true]
  refine List.map_congr_left fun entry _ => ?_
  by_cases h : entry.1 = passwordName <;> simp [h]

/-- What the command shows of itself, its environment left out. -/
def visible (command : Command) : String × List String × String × Option Path × Option Bytes :=
  (command.program, command.args, command.display, command.dir, command.input)

end Command

/-- A path in another one ends in the name that it has there. -/
theorem Path.exists_text_join (base : Path) {name : String} (relative : isAbsolute ⟨name⟩ = false) :
    ∃ before, (base.join name).text = before ++ name := by
  rw [join, relative, if_neg Bool.false_ne_true]
  split
  · exact ⟨base.text, rfl⟩
  · exact ⟨base.text ++ "/", rfl⟩

/-- Passes a request on. A command is edited before. -/
def Host.editing (edit : Command → Command) : (request : HostRequest) → HostDialogue request.Reply
  | .run command => Host.run (edit command)
  | .disk => Host.disk
  | .save disk => Host.save disk

theorem Host.editing_of_silent (edit : Command → Command) {exchange : Exchange HostProtocol}
    (silent : exchange.command? = none) :
    Host.editing edit exchange.question = Dialogue.call exchange.question := by
  obtain ⟨request, answer⟩ := exchange
  cases request with
  | run command => cases silent
  | disk => rfl
  | save disk => rfl

/-- The exchange with its command edited, if it has one. -/
def Exchange.edited (edit : Command → Command) : Exchange HostProtocol → Exchange HostProtocol
  | ⟨.run command, answer⟩ => ⟨.run (edit command), answer⟩
  | exchange => exchange

theorem HostTranscript.commands_edited (edit : Command → Command) (said : HostTranscript) :
    commands (said.map (Exchange.edited edit)) = said.commands.map edit := by
  rw [commands, commands, List.filterMap_map, List.map_filterMap]
  refine List.filterMap_congr fun exchange _ => ?_
  obtain ⟨request, answer⟩ := exchange
  cases request <;> rfl

namespace Restore

/-- The answers of the host, and the states that are alike, do not depend on passwords. -/
structure Unaware {σ : Type} (respond : Responder HostProtocol σ) (alike : σ → σ → Prop) :
    Prop where
  run : ∀ {command command' : Command} {s s' : σ}, command.redacted = command'.redacted →
    alike s s' → (respond (.run command) s).1 = (respond (.run command') s').1 ∧
      alike (respond (.run command) s).2 (respond (.run command') s').2
  disk : ∀ {s s' : σ}, alike s s' → (respond .disk s).1 = (respond .disk s').1 ∧
    alike (respond .disk s).2 (respond .disk s').2
  save : ∀ (disk : Disk) {s s' : σ}, alike s s' →
    alike (respond (.save disk) s).2 (respond (.save disk) s').2

/-- Edited passwords change no answer of an unaware host. -/
theorem Unaware.run_editing {σ α : Type} {respond : Responder HostProtocol σ}
    {alike : σ → σ → Prop} (unaware : Unaware respond alike) {edit : Command → Command}
    (masks : ∀ command, (edit command).redacted = command.redacted) (dialogue : HostDialogue α)
    {s s' : σ} (start : alike s s') :
    ((dialogue.through (Host.editing edit)).run respond s').1 = (dialogue.run respond s).1 ∧
      (dialogue.through (Host.editing edit)).exchanges respond s' =
        (dialogue.exchanges respond s).map (Exchange.edited edit) := by
  induction dialogue generalizing s s' with
  | done value => exact ⟨rfl, rfl⟩
  | ask request next ih =>
    cases request with
    | run command =>
      obtain ⟨answer, after⟩ := unaware.run (masks command).symm start
      obtain ⟨result, said⟩ := ih (respond (.run command) s).1 after
      simp only [Dialogue.through, Host.editing, Host.run, Dialogue.call, Dialogue.bind,
        Dialogue.run, Dialogue.exchanges, List.map_cons, Exchange.edited, ← answer]
      exact ⟨result, congrArg (_ :: ·) said⟩
    | disk =>
      obtain ⟨answer, after⟩ := unaware.disk start
      obtain ⟨result, said⟩ := ih (respond .disk s).1 after
      simp only [Dialogue.through, Host.editing, Host.disk, Dialogue.call, Dialogue.bind,
        Dialogue.run, Dialogue.exchanges, List.map_cons, Exchange.edited, ← answer]
      exact ⟨result, congrArg (_ :: ·) said⟩
    | save disk =>
      obtain ⟨result, said⟩ := ih () (unaware.save disk start)
      exact ⟨result, congrArg (_ :: ·) said⟩

namespace Plan

def withPassword (password : String) (plan : Plan) : Plan :=
  { plan with postgres := { plan.postgres with password } }

/-- The programs of the database server that a restore runs. -/
def clients : List String :=
  ["dropdb", "createdb", "psql"]

/-! ## The restore with another password -/

section

variable (edit : Command → Command)

theorem through_perform (command : Command) (needsOutput : Bool) :
    (settle (do Work.perform command needsOutput; return .succeeded)).through (Host.editing edit) =
      settle (do Work.perform (edit command) needsOutput; return .succeeded) := by
  rw [settle_perform, settle_perform, Dialogue.through_bind]
  rfl

theorem through_deliver (content : Disk → Except Failure Bytes) (command : Bytes → Command)
    (needsOutput : Bool) :
    (settle (ExceptT.mk (Host.disk >>= fun disk => pure (content disk)) >>= fun bytes => do
        Work.perform (command bytes) needsOutput
        return .succeeded)).through (Host.editing edit) =
      settle (ExceptT.mk (Host.disk >>= fun disk => pure (content disk)) >>= fun bytes => do
        Work.perform (edit (command bytes)) needsOutput
        return .succeeded) := by
  rw [settle_look, settle_look, Dialogue.through_bind]
  refine congrArg (Dialogue.ask _) (funext fun disk => ?_)
  simp only [Dialogue.bind, Dialogue.through]
  cases content disk with
  | error failure => rfl
  | ok bytes => exact through_perform edit (command bytes) needsOutput

theorem through_restoreMedia (plan : Plan) :
    (settle plan.restoreMedia).through (Host.editing edit) = settle plan.restoreMedia := by
  have answer : ∀ request : HostRequest, request.Reply := fun request => by
    cases request <;> exact default
  have asked : (settle plan.restoreMedia).Ensures Conduct.recorded (fun _ said =>
      ∀ e ∈ said, Host.editing edit e.question = Dialogue.call e.question) [] := by
    refine (attempts_restoreMedia plan []).mono ?_
    rintro status _ ⟨own, rfl, attempted⟩ exchange mem
    obtain ⟨disk, silent⟩ := attempted.planned
    exact Host.editing_of_silent edit (List.filterMap_eq_nil_iff.1 silent exchange mem)
  exact Dialogue.Ensures.through_eq_self answer asked

end

theorem attempt_withPassword (plan : Plan) (password : String) (step : Step) :
    (plan.withPassword password).attempt step =
      (plan.attempt step).through (Host.editing (Command.withPassword password)) := by
  have performed := through_perform (Command.withPassword password)
  have delivered := through_deliver (Command.withPassword password)
  rw [attempt_eq, attempt_eq]
  cases step with
  | stopDependents => exact (performed (supervise "stop") false).symm
  | dropDatabase => exact (performed plan.dropCommand false).symm
  | createDatabase => exact (performed plan.createCommand false).symm
  | grantPrivileges => exact (performed (plan.statementCommand plan.grantStatement) false).symm
  | loadSnapshot =>
    rw [work, work, readDump_eq, readDump_eq]
    exact (delivered plan.dump plan.loadCommand true).symm
  | describePrefixes => exact (performed (plan.statementCommand describeStatement) false).symm
  | stripSecrets => exact (performed (plan.statementCommand stripStatement) false).symm
  | startDependents => exact (performed (supervise "start") false).symm
  | runMigrations => exact (performed (plan.manageCommand ["migrate"] none) true).symm
  | recreateAdmin =>
    rw [work_recreateAdmin, work_recreateAdmin]
    exact (delivered plan.script plan.scriptCommand true).symm
  | restoreMedia => exact (through_restoreMedia _ plan).symm

theorem takeSteps_withPassword (plan : Plan) (password : String) (steps : List Step) :
    (plan.withPassword password).takeSteps steps =
      (plan.takeSteps steps).through (Host.editing (Command.withPassword password)) := by
  induction steps with
  | nil => rfl
  | cons step rest ih =>
    rw [takeSteps, takeSteps, Dialogue.through_bind, attempt_withPassword]
    refine congrArg (_ >>= ·) (funext fun status => ?_)
    split
    · rfl
    · rw [ih, Dialogue.through_bind]
      rfl

theorem run_withPassword (plan : Plan) (password : String) :
    (plan.withPassword password).run =
      plan.run.through (Host.editing (Command.withPassword password)) := by
  rw [run, run, takeSteps_withPassword, Dialogue.through_bind]
  rfl

/-! ## Who is given the password -/

/-- The management tool is no program of the database server. -/
theorem venvPython_not_mem_clients (install : Install) : install.venvPython.text ∉ clients := by
  obtain ⟨before, text⟩ : ∃ before, install.venvPython.text = before ++ "python" :=
    Path.exists_text_join _ (by decide)
  have last : install.venvPython.text.toList.getLast? = some 'n' := by
    rw [text, String.toList_append, List.getLast?_append]
    rfl
  have others : ∀ program ∈ clients, program.toList.getLast? ≠ some 'n' := by decide
  exact fun mem => others _ mem last

theorem passwords_command? {plan : Plan} {disk : Disk} {step : Step} {command : Command}
    (given : plan.command? disk step = some command) :
    command.passwords = if command.program ∈ clients then [plan.postgres.password] else [] := by
  have managed : ∀ args input, (plan.manageCommand args input).passwords =
      if (plan.manageCommand args input).program ∈ clients then [plan.postgres.password] else [] :=
    fun _ _ => (if_neg (venvPython_not_mem_clients plan.install)).symm
  cases step with
  | loadSnapshot =>
    obtain ⟨dump, -, rfl⟩ := Option.map_eq_some_iff.1 given
    rfl
  | runMigrations =>
    cases given
    exact managed _ _
  | recreateAdmin =>
    obtain ⟨content, -, rfl⟩ := Option.map_eq_some_iff.1 given
    exact managed _ _
  | restoreMedia => cases given
  | _ =>
    cases given
    rfl

/-! ## Main statement -/

/-- A restore with another password comes to the same outcome, by the same commands with the other
password in them. The password is handed to the programs of the database server, and to nobody
else. -/
theorem run_conceals {σ : Type} (plan : Plan) (password : String)
    {respond : Responder HostProtocol σ} {alike : σ → σ → Prop} (unaware : Unaware respond alike)
    {s s' : σ} (start : alike s s') :
    let said : HostTranscript := plan.run.exchanges respond s
    let said' : HostTranscript := (plan.withPassword password).run.exchanges respond s'
    ((plan.withPassword password).run.run respond s').1 = (plan.run.run respond s).1 ∧
      said'.commands = said.commands.map (Command.withPassword password) ∧
      (∀ command ∈ said.commands, command.passwords =
        if command.program ∈ clients then [plan.postgres.password] else []) ∧
      said'.commands.map Command.visible = said.commands.map Command.visible := by
  intro said said'
  obtain ⟨result, edited⟩ :=
    unaware.run_editing (Command.redacted_withPassword password) plan.run start
  rw [← run_withPassword] at result edited
  have commands : said'.commands = said.commands.map (Command.withPassword password) := by
    rw [← HostTranscript.commands_edited, ← edited]
  refine ⟨result, commands, fun command mem => ?_, ?_⟩
  · obtain ⟨results, abortedAt, -, taken⟩ := plan.run_taken respond s
    obtain ⟨disks, issued⟩ := taken.planned Step.nodup_all
    rw [issued] at mem
    obtain ⟨step, -, given⟩ := List.mem_filterMap.1 mem
    exact passwords_command? given
  · rw [commands, List.map_map]
    rfl

theorem unaware_unwilling (programs : List String) :
    Unaware (quietHost (unwilling programs)) Eq where
  run := by
    rintro command command' s _ same rfl
    have program : command.redacted.program = command'.redacted.program := by rw [same]
    replace program : command.program = command'.program := program
    simp [quietHost, unwilling, program]
  disk := by
    rintro s _ rfl
    exact ⟨rfl, rfl⟩
  save := by
    rintro disk s _ rfl
    rfl

/-- The password makes no difference where the database cannot be dropped. -/
theorem run_conceals_unwilling :
    Unaware (quietHost (unwilling ["dropdb"])) Eq ∧
      (plainPlan.run.run (quietHost (unwilling ["dropdb"])) ((), plainDisk)).1.Fails
        .dropDatabase ∧
      ((plainPlan.withPassword "other").run.run (quietHost (unwilling ["dropdb"]))
        ((), plainDisk)).1 =
          (plainPlan.run.run (quietHost (unwilling ["dropdb"])) ((), plainDisk)).1 := by
  refine ⟨unaware_unwilling _, ⟨{ cause := .other "not started" }, by decide +kernel⟩, ?_⟩
  exact (plainPlan.run_conceals "other" (unaware_unwilling ["dropdb"]) rfl).1

end Plan

end Restore

end AssetSeed
