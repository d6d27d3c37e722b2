import AssetSeed.Host.Protocol

/-!
# A host that is told its answers

## Main definitions

* `HostRehearsal` — answers to commands, and a record of the commands.
* `HostRehearsal.respond` — the answer to a request.
-/

namespace AssetSeed

structure HostRehearsal where
  disk : Disk
  /-- The answers to the commands to come. A reason stands for a command that does not start. -/
  answers : List (Except String Completion) := []
  /-- The commands so far, each with the disk that it found. -/
  commands : List (Command × Disk) := []
deriving Inhabited

namespace HostRehearsal

/-- The answer where none was told. -/
def usual : Completion where
  code := some 0
  lines := ["ok"]

def respond : Responder HostProtocol HostRehearsal
  | .run command, host =>
    let host := { host with commands := host.commands ++ [(command, host.disk)] }
    match host.answers with
    | [] => (.ok usual, host)
    | .ok completion :: answers => (.ok completion, { host with answers })
    | .error reason :: answers => (.error { cause := .other reason }, { host with answers })
  | .disk, host => (host.disk, host)
  | .save disk, host => ((), { host with disk })

end HostRehearsal

end AssetSeed
