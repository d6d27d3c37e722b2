import AssetSeed.Files.Copy
import AssetSeed.Shell.Utility

/-!
# Commands for directories and files

## Main definitions

* `cd`, `pwd`, `ls` — going through directories.
* `mkdir`, `touch`, `rm`, `cp`, `mv` — changes of the disk.
* `basename`, `dirname` — parts of a path.
-/

namespace AssetSeed.Shell

open Text

/-- The path of the current directory. -/
def currentPath (disk : Disk) : String :=
  "/" ++ "/".intercalate disk.current

/-- Writes the path of the current directory. -/
def pwd : Utility := fun _ session =>
  (session.print (currentPath session.disk ++ "\n")).succeed

def cd : Utility := fun arguments session =>
  let given := (splitOptions arguments).2.head?.orElse fun _ => session.get? "HOME"
  let path := if given = some "-" then (session.get? "OLDPWD").getD "" else given.getD "/"
  match session.disk.isDir ⟨path⟩, session.disk.place ⟨path⟩ with
  | true, .ok place =>
    let moved := { session with disk := { session.disk with current := place } }
    let shown := if given = some "-" then moved.print (currentPath moved.disk ++ "\n") else moved
    ((shown.set "OLDPWD" (currentPath session.disk)).set "PWD" (currentPath moved.disk)).succeed
  | _, _ =>
    match session.dialect with
    | .sh => session.report 2 ("cd: can't cd to " ++ path)
    | .bash => session.report 1 ("cd: " ++ path ++ ": " ++ reason .notFound)

def basename : Utility := fun arguments session =>
  let path := arguments.headD ""
  let ending := (arguments[1]?.getD "").toList
  let name := match (Path.mk path).steps.reverse.dropWhile (·.isEmpty) with
    | [] => if path.isEmpty then "" else "/"
    | name :: _ => name
  let cut := if ending ≠ name.toList && endsWith ending name.toList then
      String.ofList (name.toList.take (name.length - ending.length))
    else name
  (session.print (cut ++ "\n")).succeed

def dirname : Utility := fun arguments session =>
  let path := Path.mk (arguments.headD "")
  let above := ((path.steps.reverse.dropWhile (·.isEmpty)).tail.dropWhile (·.isEmpty)).reverse
  let shown := if above.isEmpty then (if path.isAbsolute then "/" else ".")
    else "/".intercalate above
  (session.print (shown ++ "\n")).succeed

/-- The names in a directory in order. Those that start with a point are left out unless `all` says
otherwise. -/
def namesIn (disk : Disk) (all : Bool) (path : Path) : Except FileError (List String) := do
  let names := (← disk.entries path).map (·.1)
  let shown := if all then "." :: ".." :: names
    else names.filter fun name => !(['.'].isPrefixOf name.toList)
  return shown.mergeSort fun a b => a ≤ b

def printLines (session : Session) (lines : List String) : Session :=
  session.print (String.join (lines.map (· ++ "\n")))

def ls : Utility := fun arguments session =>
  let (letters, names) := splitOptions arguments
  let names := if names.isEmpty then ["."] else names
  let isListed (name : String) : Bool := !letters.contains 'd' && session.disk.isDir ⟨name⟩
  let present := names.filter fun name =>
    session.disk.exists? ⟨name⟩ || (session.disk.named? ⟨name⟩).isSome
  let session := (names.filter fun name => !present.contains name).foldl
    (fun session name => session.complain 2
      ("ls: cannot access '" ++ name ++ "': " ++ reason .notFound)) session.succeed
  let session := printLines session
    ((present.filter (!isListed ·)).mergeSort fun a b => a ≤ b)
  ((present.filter isListed).mergeSort fun a b => a ≤ b).foldl (fun session name =>
    let session := if names.length = 1 then session else session.print (name ++ ":\n")
    match namesIn session.disk (letters.contains 'a') ⟨name⟩ with
    | .ok shown => printLines session shown
    | .error e => session.complain 2 ("ls: " ++ reason e)) session

/-! ## Changes of the disk -/

/-- Applies a change of the disk to each name. A message begins with `trouble`. -/
def changeEach (trouble : String) (change : Disk → Path → Except FileError Disk) (names : List String)
    (session : Session) : Session :=
  names.foldl (fun session name =>
    match change session.disk ⟨name⟩ with
    | .ok disk => { session with disk }
    | .error e => session.complain 1 (trouble ++ " '" ++ name ++ "': " ++ reason e)) session.succeed

def mkdir : Utility := fun arguments =>
  let (letters, names) := splitOptions arguments
  changeEach "mkdir: cannot create directory" (if letters.contains 'p' then Disk.createDirs else Disk.makeDir) names

def touch : Utility := fun arguments =>
  changeEach "touch: cannot touch"
    (fun disk path => if disk.exists? path then .ok disk else disk.write path [])
    (splitOptions arguments).2

/-- Takes away what is at the last name of a path. -/
def removeNamed (disk : Disk) (recursive : Bool) (path : Path) : Except FileError Disk := do
  let path : Path := ⟨String.ofList (path.text.toList.reverse.dropWhile (· = '/')).reverse⟩
  let place ← disk.slot path
  match disk.tree.get? place with
  | none => .error .notFound
  | some tree =>
    if tree.isDir && !recursive then .error .isADirectory
    else .ok { disk with tree := disk.tree.remove place }

def rm : Utility := fun arguments =>
  let (letters, names) := splitOptions arguments
  changeEach "rm: cannot remove" (fun disk path =>
    match removeNamed disk (letters.contains 'r' || letters.contains 'R') path with
    | .error .notFound => if letters.contains 'f' then .ok disk else .error .notFound
    | result => result) names

def rmdir : Utility := fun arguments =>
  changeEach "rmdir: failed to remove" (fun disk path => do
    if (← disk.entries path).isEmpty then removeNamed disk true path else .error .alreadyExists)
    (splitOptions arguments).2

/-- Brings names to the last one of them, which is a directory or, for a single name, a new name. -/
def bring (command : String) (move : Disk → (source target : Path) → Except FileError Disk) (names : List String) :
    Utility := fun _ session =>
  let target : Path := ⟨names.getLast?.getD ""⟩
  if names.length < 2 then session.complain 1 (command ++ ": missing operand")
  else if 2 < names.length && !session.disk.isDir target then
    session.complain 1 (target.text ++ ": Not a directory")
  else changeEach (command ++ ": cannot stat") (fun disk source =>
    move disk source (if disk.isDir target then target.join (source.fileName?.getD "") else target))
    names.dropLast session

def cp : Utility := fun arguments =>
  let (letters, names) := splitOptions arguments
  let recursive := letters.any (['r', 'R', 'a'].contains ·)
  bring "cp" (fun disk source target =>
    if disk.isDir source then
      if recursive then disk.copyDir source target else .error .isADirectory
    else disk.copyFile source target) names []

def mv : Utility := fun arguments =>
  bring "mv" (fun disk source target => do
    let place ← disk.slot source
    match disk.tree.get? place with
    | none => .error .notFound
    | some tree =>
      let disk := { disk with tree := disk.tree.remove place }
      return disk.put (← disk.slot target) tree) (splitOptions arguments).2 []

def ln : Utility := fun arguments session =>
  match splitOptions arguments with
  | (letters, [target, name]) =>
    changeEach "ln: failed to create link" (fun disk path => do
      let path := if disk.isDir path then path.join ((Path.fileName? ⟨target⟩).getD "") else path
      let place ← disk.slot path
      if (disk.tree.get? place).isSome && !letters.contains 'f' then .error .alreadyExists
      else if letters.contains 's' then .ok (disk.put place (.link target))
      else return disk.put place (← disk.find ⟨target⟩)) [name] session
  | _ => session.complain 1 "ln: missing operand"

/-- Whether a mode lets a file be run, if it says anything about that. -/
def executableBy? (mode : List Char) : Option Bool :=
  if mode.all isDigit then some ((digitValue (mode.reverse.getD 2 '0')) % 2 = 1)
  else if mode.contains 'x' then some (!mode.contains '-')
  else none

def chmod : Utility := fun arguments session =>
  match arguments with
  | mode :: names =>
    changeEach "chmod: cannot access" (fun disk path => do
      let place ← disk.place path
      match disk.tree.get? place, executableBy? mode.toList with
      | some (.file held), some executable =>
        .ok (disk.put place (.file { held with executable }))
      | some _, _ => .ok disk
      | none, _ => .error .notFound) names session
  | [] => session.complain 1 "chmod: missing operand"

end AssetSeed.Shell
