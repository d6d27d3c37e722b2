import AssetSeed.Dialogue
import AssetSeed.Failure
import AssetSeed.Files.Disk
import AssetSeed.Host.Command

/-!
# The host as a party to talk to

## Main definitions

* `HostRequest` — what can be asked of a host: to run a command, to show its disk, to change it.
* `HostProtocol`, `HostDialogue` — conversations with a host.
* `quietHost` — a host whose commands leave the disk alone.
-/

namespace AssetSeed

inductive HostRequest where
  | run (command : Command)
  | disk
  /-- Puts another disk in place of the one that is there. -/
  | save (disk : Disk)

@[reducible] def HostRequest.Reply : HostRequest → Type
  | .run _ => Except Failure Completion
  | .disk => Disk
  | .save _ => Unit

@[reducible] def HostProtocol : Protocol where
  Question := HostRequest
  Answer := HostRequest.Reply

abbrev HostDialogue := Dialogue HostProtocol

namespace Host

/-- Runs a command. Only a command that cannot be started fails. -/
def run (command : Command) : HostDialogue (Except Failure Completion) :=
  Dialogue.call (P := HostProtocol) (.run command)

def disk : HostDialogue Disk :=
  Dialogue.call (P := HostProtocol) .disk

def save (disk : Disk) : HostDialogue Unit :=
  Dialogue.call (P := HostProtocol) (.save disk)

end Host

/-- Runs commands, and does nothing else. -/
abbrev Runner (σ : Type) := Command → σ → Except Failure Completion × σ

/-- A host whose commands leave the disk alone. -/
def quietHost {σ : Type} (runner : Runner σ) : Responder HostProtocol (σ × Disk)
  | .run command, (s, disk) => let (answer, s) := runner command s; (answer, (s, disk))
  | .disk, (s, disk) => (disk, (s, disk))
  | .save disk, (s, _) => ((), (s, disk))

end AssetSeed
