import AssetSeed.Shell.Commands

/-!
# Programs

## Main definitions

* `Target` — what a program is.
* `Target.resolve` — the program that a name stands for.
-/

namespace AssetSeed.Shell

inductive Target where
  | shell (dialect : Dialect)
  /-- Runs a command with more variables. -/
  | env
  /-- Runs a command with arguments from the input. -/
  | xargs
  | utility (utility : Utility)
  /-- A file with a script in it, of the program that its first line names. -/
  | script (path : String) (interpreter : String) (arguments : List String)
  /-- A file whose first line names no program. Only a shell takes it for a script. -/
  | unmarked (path : String)

namespace Target

/-- The directories of the programs that every host has. -/
def systemDirs : List String :=
  ["/bin", "/usr/bin"]

def ofSystem? (name : String) : Option Target :=
  match name with
  | "sh" | "dash" => some (.shell .sh)
  | "bash" => some (.shell .bash)
  | "env" => some .env
  | "xargs" => some .xargs
  | _ => (program? name).map .utility

/-- Whether a byte separates a program from its argument. -/
def isSpace (b : UInt8) : Bool :=
  b = 32 || b = 9

/-- What the first line of a file names: a program, and an argument for it. -/
def interpreter? (content : Bytes) : Option (String × List String) :=
  match content with
  | 35 :: 33 :: rest =>
    let line := (rest.takeWhile (· ≠ 10)).dropWhile isSpace
    let line := (line.reverse.dropWhile isSpace).reverse
    let program := line.takeWhile (!isSpace ·)
    let argument := (line.drop program.length).dropWhile isSpace
    if program.isEmpty then none
    else some (Text.utf8Lossy program,
      if argument.isEmpty then [] else [Text.utf8Lossy argument])
  | _ => none

/-- The program of a path. -/
def ofPath (disk : Disk) (path : String) : Except FileError Target :=
  match disk.find ⟨path⟩ with
  | .ok (.file found) =>
    if found.executable then
      match interpreter? found.content with
      | some (program, arguments) => .ok (.script path program arguments)
      | none => .ok (.unmarked path)
    else .error .permissionDenied
  | .ok _ => .error .permissionDenied
  | .error e =>
    match (Path.mk path).steps.reverse with
    | name :: dirs =>
      match ofSystem? name with
      | some target =>
        if systemDirs.contains ("/".intercalate dirs.reverse) then .ok target else .error e
      | none => .error e
    | [] => .error e

/-- The program of a path, if that of the script is there, too. -/
def runnable (disk : Disk) (path : String) : Except FileError Target := do
  match ← ofPath disk path with
  | .script path interpreter arguments =>
    let _ ← ofPath disk interpreter
    return .script path interpreter arguments
  | target => return target

/-- Where programs are looked for. -/
def searchPath (env : Environment) : List String :=
  (env.getD "PATH" "/bin:/usr/bin").splitOn ":"

/-- What stands behind the name of a program, which is looked for unless it is a path. -/
def resolve (disk : Disk) (env : Environment) (name : String) : Except FileError Target :=
  if name.isEmpty then .error .notFound
  else if name.toList.contains '/' then runnable disk name
  else
    let found := (searchPath env).map fun dir =>
      runnable disk ((Path.mk (if dir.isEmpty then "." else dir)).join name).text
    match found.findSome? Except.toOption with
    | some target => .ok target
    | none =>
      if found.any fun result => match result with
        | .error .permissionDenied => true
        | _ => false
      then .error .permissionDenied else .error .notFound

/-- The path of a program that is looked for. -/
def path? (disk : Disk) (env : Environment) (name : String) : Option String :=
  let paths := if name.toList.contains '/' then [name]
    else (searchPath env).map fun dir => ((Path.mk (if dir.isEmpty then "." else dir)).join name).text
  paths.find? fun path => (runnable disk path).isOk

end Target

end AssetSeed.Shell
