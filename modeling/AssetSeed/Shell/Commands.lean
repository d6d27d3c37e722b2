import AssetSeed.Shell.Condition
import AssetSeed.Shell.Filing
import AssetSeed.Shell.Filter
import AssetSeed.Shell.Reading

/-!
# Names of commands

## Main definitions

* `expr`, `printenv` — commands that write values.
* `builtin?` — the command of the shell that has a name.
* `program?` — the program that has a name.
-/

namespace AssetSeed.Shell

/-- The commands that are part of the shell. -/
def builtins : List (String × Utility) := [
  (":", fun _ => Session.succeed), ("true", fun _ => Session.succeed),
  ("false", fun _ session => session.returns 1), ("echo", echo), ("printf", printf),
  ("pwd", pwd), ("cd", cd), ("test", test), ("[", bracket), ("read", read)]

/-- A utility that does the same below either shell. -/
def asBash (utility : Utility) : Utility := fun arguments session =>
  { utility arguments { session with dialect := .bash } with dialect := session.dialect }

/-- The value of an expression in words, from left to right. -/
def wordValue : List String → Option String
  | [a] => some a
  | ["length", a] => some (toString a.utf8ByteSize)
  | [a, operator, b] =>
    let sum (combine : Int → Int → Option Int) : Option String := do
      return toString (← combine (← wholeNumber? a) (← wholeNumber? b))
    let truth (holds : Bool) : Option String := some (if holds then "1" else "0")
    let order (numbers : Int → Int → Bool) (texts : Bool) : Option String :=
      match wholeNumber? a, wholeNumber? b with
      | some m, some n => truth (numbers m n)
      | _, _ => truth texts
    match operator with
    | "+" => sum fun m n => some (m + n)
    | "-" => sum fun m n => some (m - n)
    | "*" => sum fun m n => some (m * n)
    | "/" => sum fun m n => if n = 0 then none else some (m.tdiv n)
    | "%" => sum fun m n => if n = 0 then none else some (m.tmod n)
    | "=" | "==" => order (· = ·) (a = b)
    | "!=" => order (· ≠ ·) (a ≠ b)
    | "<" => order (· < ·) (a < b)
    | "<=" => order (· ≤ ·) (a ≤ b)
    | ">" => order (· > ·) (b < a)
    | ">=" => order (· ≥ ·) (b ≤ a)
    | "&" => some (if a.isEmpty || a = "0" || b.isEmpty || b = "0" then "0" else a)
    | "|" => some (if a.isEmpty || a = "0" then b else a)
    | _ => none
  | _ => none

def expr : Utility := fun arguments session =>
  match wordValue arguments with
  | some value =>
    (session.print (value ++ "\n")).returns (if value.isEmpty || value = "0" then 1 else 0)
  | none => session.complain 2 "expr: syntax error"

def printenv : Utility := fun arguments session =>
  match arguments with
  | [] => (session.env.entries.foldl (fun session (name, value) =>
      session.print (name ++ "=" ++ value ++ "\n")) session).succeed
  | names => names.foldl (fun session name =>
    match session.env.get? name with
    | some value => session.print (value ++ "\n")
    | none => session.returns 1) session.succeed

/-- The commands that are programs. -/
def programs : List (String × Utility) := [
  ("true", fun _ => Session.succeed), ("false", fun _ session => session.returns 1),
  ("echo", asBash echo), ("printf", asBash printf), ("pwd", pwd), ("test", test), ("[", bracket),
  ("cat", cat), ("wc", wc), ("head", head), ("tail", tail), ("sort", sort), ("uniq", uniq),
  ("tr", tr), ("grep", grep), ("awk", awk), ("cut", cutUtility), ("rev", rev), ("tac", tac),
  ("tee", tee), ("seq", seqUtility), ("yes", yes), ("expr", expr), ("printenv", printenv),
  ("basename", basename), ("dirname", dirname), ("ls", ls), ("mkdir", mkdir), ("rmdir", rmdir),
  ("touch", touch), ("rm", rm), ("cp", cp), ("mv", mv), ("ln", ln), ("chmod", chmod),
  ("sleep", fun _ => Session.succeed), ("sync", fun _ => Session.succeed)]

def builtin? (name : String) : Option Utility :=
  (builtins.find? fun entry => entry.1 = name).map (·.2)

def program? (name : String) : Option Utility :=
  (programs.find? fun entry => entry.1 = name).map (·.2)

end AssetSeed.Shell
