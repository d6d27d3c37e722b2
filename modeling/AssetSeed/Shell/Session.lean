import AssetSeed.Environment.Basic
import AssetSeed.Files.Disk
import AssetSeed.Shell.Field
import AssetSeed.Shell.Script

/-!
# Sessions of a shell

## Main definitions

* `Session` — what a script can see and change while it runs.
* `Sink` — where what is written to a stream goes.
* `Session.print`, `Session.complain` — output and messages.
* `Session.value?` — the value of a parameter.
* `Session.exitCode` — how the session ended.
-/

namespace AssetSeed.Shell

/-- Why a script does not go on. -/
inductive Ending where
  | exited
  | killed (signal : Nat)
  /-- A function comes to its end. -/
  | returned
  /-- That many loops come to their end. -/
  | broken (loops : Nat)
  /-- That many loops but the last one come to their end, and that one goes on. -/
  | continued (loops : Nat)
deriving Repr, DecidableEq

/-- Where what is written to a stream goes: to a channel of its own, or to a file. -/
inductive Sink where
  | channel (number : Nat)
  | file (place : List String)
  | nowhere
deriving Repr, DecidableEq

/-- Where each stream goes that does not go to the channel of its number. -/
abbrev Sinks := List (Nat × Sink)

namespace Sinks

def get (sinks : Sinks) (stream : Nat) : Sink :=
  (sinks.lookup stream).getD (if stream = 1 || stream = 2 then .channel stream else .nowhere)

end Sinks

structure Session where
  disk : Disk
  vars : Environment
  /-- The names of the variables that commands inherit. -/
  inherited : List String
  /-- The names of the variables that keep their value. -/
  settled : List String := []
  functions : List (String × Script) := []
  name : String := "sh"
  /-- The line of the script that is run. -/
  line : Nat := 1
  arguments : List String := []
  /-- The number of the process. -/
  process : Nat := 1000
  dialect : Dialect := .sh
  /-- The letters of the options that are on. -/
  options : List Char := []
  input : Bytes := []
  sinks : Sinks := []
  /-- The number of the next channel. -/
  nextChannel : Nat := 3
  /-- What has been written so far, with the number of the channel. -/
  output : List (Nat × Bytes) := []
  status : Nat := 0
  /-- The status of the last script in the command whose output was put in. -/
  substitution : Option Nat := none
  ending : Option Ending := none
  /-- Whether a command may fail without ending the shell. -/
  guarded : Bool := false
  /-- What is done when a signal comes, or in the end. -/
  traps : List (String × String) := []
  /-- What is done before the next command. -/
  pending : List String := []
  /-- The number of loops around the command. -/
  loops : Nat := 0
  /-- The number of functions around the command. -/
  calls : Nat := 0
  /-- The values that variables had before a function made them its own. -/
  shadowed : List (String × Option String) := []
  /-- The status of the last command that was not waited for. -/
  background : Nat := 0
deriving Repr, Inhabited

namespace Session

def outputStream : Nat :=
  1

def messageStream : Nat :=
  2

/-- The session that a command begins. -/
def ofCommand (disk : Disk) (env : Environment) (input : Bytes) : Session where
  disk := disk
  vars := env
  inherited := env.entries.map (·.1)
  input := input

/-- Writes to a stream. -/
def send (session : Session) (stream : Nat) (bytes : Bytes) : Session :=
  match session.sinks.get stream with
  | .channel number => { session with output := session.output ++ [(number, bytes)] }
  | .nowhere => session
  | .file place =>
    match session.disk.tree.get? place with
    | some (.file held) =>
      { session with
        disk := session.disk.put place (.file { held with content := held.content ++ bytes }) }
    | _ => session

def write (session : Session) (bytes : Bytes) : Session :=
  session.send outputStream bytes

def print (session : Session) (text : String) : Session :=
  session.write (Text.utf8Encode text)

def returns (session : Session) (status : Nat) : Session :=
  { session with status }

def succeed (session : Session) : Session :=
  session.returns 0

/-- Ends a command with a message. -/
def complain (session : Session) (status : Nat) (message : String) : Session :=
  (session.send messageStream (Text.utf8Encode (message ++ "\n"))).returns status

/-- Ends a command with a message of the shell. -/
def report (session : Session) (status : Nat) (message : String) : Session :=
  let place := match session.dialect with
    | .sh => session.name ++ ": " ++ toString session.line ++ ": "
    | .bash => session.name ++ ": line " ++ toString session.line ++ ": "
  session.complain status (place ++ message)

/-- Ends the shell with a message. -/
def abort (session : Session) (status : Nat) (message : String) : Session :=
  { session.report status message with ending := some .exited }

/-- Ends a command with a message. In the plainer shell that ends the shell, too. -/
def refuse (session : Session) (status : Nat) (message : String) : Session :=
  match session.dialect with
  | .sh => session.abort 2 message
  | .bash => session.report status message

/-- What has been written to a channel. -/
def written (session : Session) (channel : Nat) : Bytes :=
  (session.output.filter fun chunk => chunk.1 = channel).flatMap (·.2)

/-! ## Variables -/

def get? (session : Session) (name : String) : Option String :=
  session.vars.get? name

/-- The variables that commands inherit. -/
def env (session : Session) : Environment where
  entries := session.vars.entries.filter fun entry => session.inherited.contains entry.1

/-- Gives a variable a value, or ends the shell if it keeps the one that it has. -/
def set (session : Session) (name value : String) : Session :=
  if session.settled.contains name then
    session.abort (if session.dialect = .sh then 2 else 1) (name ++ ": is read only")
  else
    { session with
      vars := session.vars.set name value
      inherited := if session.options.contains 'a' then name :: session.inherited
        else session.inherited }

/-- Gives a variable a value, or takes it away. -/
def restore (session : Session) (name : String) (value? : Option String) : Session :=
  match value? with
  | some value => { session with vars := session.vars.set name value }
  | none => { session with vars := session.vars.erase name }

/-- Lets commands inherit a variable. -/
def inherit (session : Session) (name : String) : Session :=
  { session with inherited := name :: session.inherited }

def unset (session : Session) (name : String) : Session :=
  { session with
    vars := session.vars.erase name
    inherited := session.inherited.filter (· ≠ name)
    functions := if session.vars.contains name then session.functions
      else session.functions.filter (·.1 ≠ name) }

/-- The characters at which values are split. -/
def separators (session : Session) : List Char :=
  ((session.get? "IFS").getD " \t\n").toList

/-- What stands between the arguments where they are put together. -/
def joint (session : Session) : String :=
  match session.get? "IFS" with
  | some value => String.ofList (value.toList.take 1)
  | none => " "

/-- The value of a parameter that is a variable, a number or a sign. -/
def value? (session : Session) (parameter : String) : Option String :=
  match parameter with
  | "?" => some (toString session.status)
  | "#" => some (toString session.arguments.length)
  | "$" => some (toString session.process)
  | "!" => some (toString (session.process + 1))
  | "-" => some (String.ofList session.options)
  | "0" => some session.name
  | "*" | "@" =>
    if session.arguments.isEmpty then none else some (session.joint.intercalate session.arguments)
  | other =>
    match Text.natural? 9999 other.toList with
    | some n => session.arguments[n - 1]?
    | none => session.get? other

/-! ## Ends -/

/-- The status that is left behind; a killed session has one above 128. -/
def exitStatus (session : Session) : Nat :=
  match session.ending with
  | some (.killed signal) => 128 + signal
  | _ => session.status

/-- The exit code that a parent sees; a killed session has none. -/
def exitCode (session : Session) : Option Int :=
  match session.ending with
  | some (.killed _) => none
  | _ => some (session.status % 256)

/-- The session after another one that began in it and shares only streams and disk with it. -/
def resume (session inner : Session) : Session :=
  { session with
    disk := { inner.disk with current := session.disk.current }
    input := inner.input
    output := inner.output
    status := inner.exitStatus % 256 }

/-- A signal that reached an inner session reaches this one, too. -/
def killedWith (session inner : Session) : Session :=
  match inner.ending with
  | some (.killed signal) => { session with ending := some (.killed signal) }
  | _ => session

/-- The session after a command, which ends it if it failed and must not. -/
def checked (session : Session) : Session :=
  if session.options.contains 'e' && !session.guarded && session.status ≠ 0
      && session.ending.isNone then
    { session with ending := some .exited }
  else session

/-- The session of a part that ends for itself. -/
def inside (session : Session) : Session :=
  { session with traps := session.traps.filter (·.2.isEmpty), loops := 0 }

end Session

end AssetSeed.Shell
