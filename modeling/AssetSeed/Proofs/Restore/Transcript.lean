import AssetSeed.Restore.Run

/-!
# What is said to a host

## Main definitions

* `HostTranscript` — what was asked of a host, with the answers.
* `HostTranscript.commands` — the commands that were given.
* `Restore.Work.judge` — the status that an answer to a command stands for.
* `HostTranscript.accepted` — a command was given and succeeded.
* `HostTranscript.Fresh` — nothing is looked at once something was stored.
-/

namespace AssetSeed

abbrev HostTranscript := List (Exchange HostProtocol)

namespace Exchange

/-- The command, if one was given. -/
def command? : Exchange HostProtocol → Option Command
  | ⟨.run command, _⟩ => some command
  | _ => none

/-- Whether the disk was shown. -/
def isLook : Exchange HostProtocol → Bool
  | ⟨.disk, _⟩ => true
  | _ => false

/-- Whether another disk was put in place. -/
def isSave : Exchange HostProtocol → Bool
  | ⟨.save _, _⟩ => true
  | _ => false

theorem of_isLook {exchange : Exchange HostProtocol} (looks : exchange.isLook) :
    exchange.command? = none ∧ exchange.isSave = false := by
  obtain ⟨request, answer⟩ := exchange
  cases request with
  | run command => cases looks
  | disk => exact ⟨rfl, rfl⟩
  | save disk => cases looks

theorem of_isSave {exchange : Exchange HostProtocol} (saves : exchange.isSave) :
    exchange.command? = none ∧ exchange.isLook = false := by
  obtain ⟨request, answer⟩ := exchange
  cases request with
  | run command => cases saves
  | disk => cases saves
  | save disk => exact ⟨rfl, rfl⟩

end Exchange

namespace Restore

/-- Whether the command of the step has to print something. -/
def Step.needsOutput : Step → Bool
  | loadSnapshot | runMigrations | recreateAdmin => true
  | _ => false

/-- The status of a step that gave a command with this answer. -/
def Work.judge (needsOutput : Bool) : Except Failure Completion → Status
  | .error failure => .failed failure
  | .ok completion =>
    match Work.complaint? needsOutput completion with
    | none => .succeeded
    | some detail => .failed { cause := .other detail }

theorem Work.judge_ne_skipped (needsOutput : Bool) (answer : Except Failure Completion) :
    Work.judge needsOutput answer ≠ .skipped := by
  cases answer with
  | error failure => nofun
  | ok completion =>
    rw [Work.judge]
    cases Work.complaint? needsOutput completion <;> nofun

theorem Work.judge_eq_succeeded_iff (needsOutput : Bool) (answer : Except Failure Completion) :
    Work.judge needsOutput answer = .succeeded ↔
      (Work.judge needsOutput answer).isFailed = false := by
  have settled := Work.judge_ne_skipped needsOutput answer
  cases judged : Work.judge needsOutput answer with
  | succeeded => simp [Status.isFailed]
  | failed failure => simp [Status.isFailed]
  | skipped => exact absurd judged settled

end Restore

namespace HostTranscript

open Restore

/-- The commands that were given, in order. -/
def commands (said : HostTranscript) : List Command :=
  said.filterMap Exchange.command?

/-- The command was given and succeeded: it ended well, with some output if that is asked for. -/
def accepted (said : HostTranscript) (command : Command) (needsOutput : Bool) : Bool :=
  said.any fun
    | ⟨.run given, answer⟩ => given = command && !(Work.judge needsOutput answer).isFailed
    | _ => false

/-- Nothing is looked at once something was stored. -/
def Fresh (said : HostTranscript) : Prop :=
  said.Pairwise fun earlier later => earlier.isSave → later.isLook = false

theorem fresh_of_unsaved {said : HostTranscript}
    (unsaved : ∀ exchange ∈ said, exchange.isSave = false) : said.Fresh :=
  List.pairwise_of_forall_mem_list fun _ mem _ _ saves =>
    Bool.noConfusion ((unsaved _ mem).symm.trans saves)

@[simp] theorem commands_nil : commands [] = [] := rfl

@[simp] theorem commands_append (said said' : HostTranscript) :
    commands (said ++ said') = said.commands ++ said'.commands :=
  List.filterMap_append

theorem commands_run (command : Command) (answer : Except Failure Completion) :
    commands [⟨.run command, answer⟩] = [command] := rfl

theorem accepted_run (command given : Command) (answer : Except Failure Completion)
    (needsOutput : Bool) : accepted [⟨.run given, answer⟩] command needsOutput =
      (decide (given = command) && !(Work.judge needsOutput answer).isFailed) := by
  simp [accepted]

theorem commands_eq_nil {said : HostTranscript}
    (silent : ∀ exchange ∈ said, exchange.command? = none) : said.commands = [] :=
  List.filterMap_eq_nil_iff.2 silent

@[simp] theorem accepted_append (said said' : HostTranscript) (command : Command)
    (needsOutput : Bool) : accepted (said ++ said') command needsOutput =
      (said.accepted command needsOutput || said'.accepted command needsOutput) :=
  List.any_append

/-- Only a command that was given succeeds. -/
theorem mem_commands_of_accepted {said : HostTranscript} {command : Command} {needsOutput : Bool}
    (accepted : said.accepted command needsOutput) : command ∈ said.commands := by
  obtain ⟨⟨request, answer⟩, mem, succeeds⟩ := List.any_eq_true.1 accepted
  cases request with
  | run given =>
    obtain ⟨same, -⟩ := Bool.and_eq_true_iff.1 succeeds
    exact List.mem_filterMap.2 ⟨_, mem, congrArg some (of_decide_eq_true same)⟩
  | disk => cases succeeds
  | save disk => cases succeeds

theorem accepted_eq_false {said : HostTranscript} {command : Command} (needsOutput : Bool)
    (unsaid : command ∉ said.commands) : said.accepted command needsOutput = false :=
  Bool.eq_false_iff.2 fun accepted => unsaid (mem_commands_of_accepted accepted)

end HostTranscript

end AssetSeed
