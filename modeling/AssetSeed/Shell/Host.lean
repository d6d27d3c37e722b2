import AssetSeed.Host.Protocol
import AssetSeed.Shell.Run

/-!
# A host whose programs are scripts

## Main definitions

* `Shell.start` — a command, run on a disk to its end.
* `Shell.host` — a host that runs commands in this way.
-/

namespace AssetSeed.Shell

/-- The fuel of one command. -/
def fuel : Nat :=
  1000000

/-- Why a command does not start. -/
def notStarted (command : Command) (error : FileError) : Failure where
  cause := .file error
  contexts := ["Failed to start " ++ command.program]

/-- The lines of an output that are not blank. -/
def shownLines (output : Bytes) : List String :=
  ((Text.lines (Text.utf8Lossy output).toList).filter fun line =>
    !(Text.trim line).isEmpty).map String.ofList

def completion (session : Session) : Completion where
  code := session.exitCode
  lines := shownLines (session.written Session.outputStream)

/-- The disk as a command finds it. -/
def diskFor (disk : Disk) (command : Command) : Except FileError Disk :=
  match command.dir with
  | none => .ok disk
  | some dir => do
    let _ ← disk.entries dir
    return { disk with current := ← disk.place dir }

/-- Runs a command. What it changes on the disk stays, and the current directory, too. -/
def start (env : Environment) (command : Command) (disk : Disk) :
    Except Failure Completion × Disk :=
  let env := env.extend command.env
  match diskFor disk command with
  | .error e => (.error (notStarted command e), disk)
  | .ok below =>
    match Target.resolve below env command.program with
    | .error e => (.error (notStarted command e), disk)
    | .ok (.unmarked _) => (.error (notStarted command .invalidInput), disk)
    | .ok target =>
      let session := enter fuel command.program target command.args
        (.ofCommand below env (command.input.getD []))
      (.ok (completion session), { session.disk with current := disk.current })

def host (env : Environment) : Responder HostProtocol Disk
  | .run command, disk => start env command disk
  | .disk, disk => (disk, disk)
  | .save saved, _ => ((), saved)

end AssetSeed.Shell
