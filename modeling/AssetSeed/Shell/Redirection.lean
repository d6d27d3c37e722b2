import AssetSeed.Shell.Script
import AssetSeed.Shell.Utility

/-!
# Redirections

## Main definitions

* `Session.redirect` — a session whose streams go where a redirection says.
-/

namespace AssetSeed.Shell

/-- The place of a file that is opened for writing, and the disk with it. -/
def openForWriting (disk : Disk) (keep : Bool) (path : String) :
    Except FileError (List String × Disk) := do
  let old := if keep then (disk.read ⟨path⟩).toOption.getD [] else []
  let disk ← disk.write ⟨path⟩ old
  return (← disk.target ⟨path⟩, disk)

/-- The stream that a file stands for. -/
def streamOf? (path : String) : Option Nat :=
  match path with
  | "/dev/stdout" | "/dev/fd/1" => some 1
  | "/dev/stderr" | "/dev/fd/2" => some 2
  | _ => none

namespace Session

def direct (session : Session) (stream : Nat) (sink : Sink) : Session :=
  { session with sinks := (stream, sink) :: session.sinks }

/-- Lets a stream go to a file, whose content is kept or not. -/
def openOutput (session : Session) (keep : Bool) (stream : Nat) (target : String) :
    Except FileError Session :=
  if target = nullDevice then .ok (session.direct stream .nowhere)
  else
    match streamOf? target with
    | some other => .ok (session.direct stream (session.sinks.get other))
    | none => (openForWriting session.disk keep target).map fun (place, disk) =>
        { session with disk }.direct stream (.file place)

/-- Opens what a redirection names. -/
def redirect (session : Session) (direction : Direction) (stream : Nat) (target : String) :
    Except FileError Session :=
  match direction with
  | .read => do
    let (content, session) ← session.openFile target
    return if stream = 0 then { session with input := content } else session
  | .document => .ok { session with input := Text.utf8Encode target }
  | .line => .ok { session with input := Text.utf8Encode (target ++ "\n") }
  | .both => do
    let session ← session.openOutput false 1 target
    return session.direct 2 (session.sinks.get 1)
  | .appendBoth => do
    let session ← session.openOutput true 1 target
    return session.direct 2 (session.sinks.get 1)
  | .duplicate =>
    if target = "-" then .ok (session.direct stream .nowhere)
    else
      match Text.natural? 9 target.toList with
      | some other =>
        if other ≤ 2 || (session.sinks.lookup other).isSome then
          .ok (session.direct stream (session.sinks.get other))
        else .error .invalidInput
      | none => .error .invalidInput
  | .write => session.openOutput false stream target
  | .append => session.openOutput true stream target

/-- Why a redirection cannot be opened. -/
def redirectionMessage (session : Session) (direction : Direction) (target : String)
    (error : FileError) : String :=
  match session.dialect, direction with
  | .bash, _ => target ++ ": " ++ reason error
  | .sh, .read =>
    "cannot open " ++ target ++ ": " ++ (if error = .notFound then "No such file" else reason error)
  | .sh, _ =>
    "cannot create " ++ target ++ ": "
      ++ (if error = .notFound then "Directory nonexistent" else reason error)

end Session

end AssetSeed.Shell
