import AssetSeed.Shell.Arithmetic
import AssetSeed.Shell.Signal
import AssetSeed.Shell.Utility

/-!
# Commands of the shell itself

Commands that end a part of a script or change what later commands find in their session.

## Main definitions

* `kill` — a signal for the session.
* `setOptions` — options and arguments of the session.
* `special?` — the command of a name.
-/

namespace AssetSeed.Shell

namespace Session

/-- The number that an argument of a command writes down, if it is one that the shell takes. -/
def number? (session : Session) (text : String) : Option Int :=
  match session.dialect, text.toList with
  | .sh, digits => (Text.natural? ((1 <<< 31) - 1) digits).map Int.ofNat
  | .bash, '-' :: digits => (Text.natural? (1 <<< 63) digits).map (-Int.ofNat ·)
  | .bash, digits => (Text.natural? ((1 <<< 63) - 1) digits).map Int.ofNat

/-- Leaves the session, or a function, with the status that is given. -/
def leave (session : Session) (arguments : List String) (ending : Ending) : Session :=
  match arguments with
  | [] => { session with ending := some ending }
  | text :: _ =>
    match session.number? text with
    | some n => { session with status := (n % 256).toNat, ending := some ending }
    | none => session.abort 2 ("Illegal number: " ++ text)

/-- Leaves loops, or begins them anew. Outside of loops nothing is left. -/
def leaveLoops (session : Session) (arguments : List String) (ending : Nat → Ending) : Session :=
  let count := (session.number? (arguments.headD "1")).getD 0
  if count ≤ 0 then session.refuse 1 "Illegal number"
  else if session.loops = 0 then session.succeed
  else { session.succeed with ending := some (ending (min count.toNat session.loops)) }

/-- What happens when a signal comes. -/
def receive (session : Session) (signal : Nat) : Session :=
  let session := session.succeed
  match session.traps.lookup (toString signal) with
  | some action =>
    if signal = 9 then { session with ending := some (.killed signal) }
    else if action.isEmpty then session
    else { session with pending := session.pending ++ [action] }
  | none =>
    if Signal.isHarmless signal then session
    else { session with ending := some (.killed signal) }

end Session

/-- Sends a signal, which only the session itself can get. -/
def kill : Utility := fun arguments session =>
  let (signal?, processes) := match arguments with
    | "-s" :: name :: rest => (Signal.ofText? name, rest)
    | argument :: rest =>
      match argument.toList with
      | ['-', '-'] => (some 15, rest)
      | '-' :: name => (Signal.ofText? (String.ofList name), rest)
      | _ => (some 15, argument :: rest)
    | [] => (none, [])
  match signal? with
  | none => session.report (if session.dialect = .sh then 2 else 1) "kill: bad signal"
  | some signal =>
    if processes.contains (toString session.process) then session.receive signal
    else if processes.contains (toString (session.process + 1)) then session.succeed
    else session.report 1 "kill: No such process"

/-! ## Variables -/

/-- Gives variables values, and does something with their names. -/
def declare (change : Session → String → Session) : Utility := fun arguments session =>
  let names := arguments.filter fun argument => !(['-'].isPrefixOf argument.toList)
  names.foldl (fun session argument =>
    match Text.cut? '=' argument.toList with
    | some (name, value) =>
      let session := change session (String.ofList name)
      if isName name then session.set (String.ofList name) (String.ofList value)
      else session.refuse 1 (argument ++ ": bad variable name")
    | none =>
      if isName argument.toList then change session argument
      else session.refuse 1 (argument ++ ": bad variable name")) session.succeed

/-- Makes a variable one of the function that is running. -/
def shadow (session : Session) (name : String) : Session :=
  { session with shadowed := (name, session.get? name) :: session.shadowed }

/-- Lets variables keep the values that they have been given. -/
def settle : Utility := fun arguments session =>
  let after := declare (fun session _ => session) arguments session
  let names := arguments.map fun argument => String.ofList (argument.toList.takeWhile (· ≠ '='))
  { after with settled := names ++ after.settled }

def localize : Utility := fun arguments session =>
  if session.calls = 0 then session.refuse 1 "local: not in a function"
  else declare shadow arguments session

/-- Takes variables away, or functions. -/
def unset : Utility := fun arguments session =>
  let (letters, names) := splitOptions arguments
  names.foldl (fun session name =>
    if letters.contains 'f' then
      { session with functions := session.functions.filter (·.1 ≠ name) }
    else if session.settled.contains name then session.refuse 1 (name ++ ": is read only")
    else session.unset name) session.succeed

/-! ## Options -/

/-- The letters of the options that have a name. -/
def optionLetter? (name : String) : Option Char :=
  ([("errexit", 'e'), ("nounset", 'u'), ("noglob", 'f'), ("xtrace", 'x'), ("verbose", 'v'),
    ("noexec", 'n'), ("noclobber", 'C'), ("allexport", 'a'), ("monitor", 'm'),
    ("notify", 'b'), ("pipefail", 'p')] : List (String × Char)).lookup name

/-- Turns an option on or off. -/
def turn (isOn : Bool) (letter : Char) (session : Session) : Session :=
  let others := session.options.filter (· ≠ letter)
  { session with options := if isOn then letter :: others else others }

def turnNamed (isOn : Bool) (name : String) (session : Session) : Session :=
  match optionLetter? name with
  | some letter =>
    if letter = 'p' && session.dialect = .sh then session.abort 2 "Illegal option -o pipefail"
    else turn isOn letter session
  | none => session.refuse 2 "Illegal option"

/-- Options, and then the arguments if any are given. -/
def setOptions : List String → Session → Session
  | [], session => session
  | "--" :: rest, session => { session with arguments := rest }
  | "-" :: rest, session =>
    if rest.isEmpty then session else { session with arguments := rest }
  | "-o" :: name :: rest, session => setOptions rest (turnNamed true name session)
  | "+o" :: name :: rest, session => setOptions rest (turnNamed false name session)
  | argument :: rest, session =>
    match argument.toList with
    | sign :: letter :: letters =>
      if sign = '-' || sign = '+' then
        let named := (letter :: letters).contains 'o'
        let session := ((letter :: letters).filter (· ≠ 'o')).foldl (fun session letter =>
          if "abCefhmnsuvxBE".toList.contains letter then turn (sign = '-') letter session
          else session.refuse 2 "Illegal option") session
        if named then
          match rest with
          | name :: rest => setOptions rest (turnNamed (sign = '-') name session)
          | [] => session
        else setOptions rest session
      else { session with arguments := argument :: rest }
    | _ => { session with arguments := argument :: rest }

/-! ## Traps -/

/-- The key of a condition on which a trap waits. -/
def trapKey? (condition : String) : Option String :=
  (Signal.ofText? condition).map toString

/-- Says what is done when signals come. -/
def trap : Utility := fun arguments session =>
  let arguments := if arguments.head? = some "--" then arguments.drop 1 else arguments
  let change (action? : Option String) (conditions : List String) : Session :=
    conditions.foldl (fun session condition =>
      match trapKey? condition with
      | none => session.complain 1 (condition ++ ": bad trap")
      | some key =>
        let others := session.traps.filter (·.1 ≠ key)
        { session with traps := match action? with
            | some action => (key, action) :: others
            | none => others }) session.succeed
  match arguments with
  | [] => session.succeed
  | [condition] => change none [condition]
  | "-" :: conditions => change none conditions
  | action :: conditions =>
    if (Text.natural? 64 action.toList).isSome then change none (action :: conditions)
    else change (some action) conditions

/-! ## Table -/

def shiftArguments : Utility := fun arguments session =>
  match session.number? (arguments.headD "1") with
  | some n =>
    if 0 ≤ n && n.toNat ≤ session.arguments.length then
      { session.succeed with arguments := session.arguments.drop n.toNat }
    else if session.dialect = .sh then session.abort 2 "shift: can't shift that many"
    else session.returns 1
  | none => session.refuse 1 "shift: Illegal number"

def giveBack : Utility := fun arguments session =>
  if session.calls = 0 && session.dialect = .bash then
    session.complain 2 "return: can only be used in a function"
  else session.leave arguments (if session.calls = 0 then .exited else .returned)

/-- The values of expressions. The last one decides about success. -/
def letAll : Utility := fun arguments session =>
  arguments.foldl (fun session argument =>
    match (Expression.ofText? true argument.toList).bind
        (·.evaluate? session.get? true []) with
    | some (n, given) =>
      (given.reverse.foldl (fun session (name, n) => session.set name (toString n))
        session).returns (if n = 0 then 1 else 0)
    | none => session.complain 1 "let: bad expression") session

/-- The commands that only a shell can carry out. -/
def special? (dialect : Dialect) (name : String) : Option Utility :=
  match name, dialect with
  | "exit", _ => some fun arguments session => session.leave arguments .exited
  | "return", _ => some giveBack
  | "break", _ => some fun arguments session => session.leaveLoops arguments .broken
  | "continue", _ => some fun arguments session => session.leaveLoops arguments .continued
  | "kill", _ => some kill
  | "export", _ => some (declare Session.inherit)
  | "readonly", _ => some settle
  | "local", _ => some localize
  | "declare", .bash | "typeset", .bash => some fun arguments session =>
    if session.calls = 0 then declare (fun session _ => session) arguments session
    else declare shadow arguments session
  | "let", .bash => some letAll
  | "unset", _ => some unset
  | "shift", _ => some shiftArguments
  | "set", _ => some fun arguments session => setOptions arguments session.succeed
  | "trap", _ => some trap
  | "wait", _ => some fun arguments session =>
    session.returns (if arguments.isEmpty then 0 else session.background)
  | "umask", _ => some fun arguments session =>
    (if arguments.isEmpty then session.print "0022\n" else session).succeed
  | "hash", _ | "times", _ | "ulimit", _ | "alias", _ => some fun _ => Session.succeed
  | _, _ => none

/-- Commands whose failure ends the plainer shell, and before which values of variables stay. -/
def isSpecial (name : String) : Bool :=
  [":", "exit", "return", "break", "continue", "export", "readonly", "unset", "shift", "set", "trap",
    "eval", "exec", ".", "times"].contains name

end AssetSeed.Shell
