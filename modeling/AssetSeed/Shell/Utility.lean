import AssetSeed.Shell.Format
import AssetSeed.Shell.Session

/-!
# Utilities

Commands that need nothing but the session.

## Main definitions

* `Session.openFile` — what a file or the input holds.
* `Utility` — a command that needs nothing but the session.
* `echo`, `printf`, `yes`, `seqUtility` — commands that only write.
-/

namespace AssetSeed.Shell

open Text

/-- The file that holds nothing and keeps nothing. -/
def nullDevice : String :=
  "/dev/null"

/-- The file that holds zeros without end. -/
def zeroDevice : String :=
  "/dev/zero"

/-- The words for a failure. -/
def reason (error : FileError) : String :=
  (error.message.splitOn " (os error").headD ""

namespace Session

/-- The content of a file. A dash stands for the input, which is used up. -/
def openFile (session : Session) (name : String) : Except FileError (Bytes × Session) :=
  if name = "-" then .ok (session.input, { session with input := [] })
  else if name = nullDevice then .ok ([], session)
  else if name = zeroDevice then .ok (List.replicate 1000000 0, session)
  else (session.disk.read ⟨name⟩).map fun content => (content, session)

/-- Goes through files, or through the input if there are none. A file that is not there is passed
over with the status `trouble` and a message that begins with what `tell` makes of its name. -/
def overFiles (trouble : Nat) (tell : String → String) (visit : Option String → Bytes → Session → Session)
    (names : List String) (session : Session) : Session :=
  if names.isEmpty then visit none session.input { session with input := [] }
  else
    names.foldl (fun session name =>
      match session.openFile name with
      | .ok (content, session) => visit (some name) content session
      | .error e => session.complain trouble (tell name ++ ": " ++ reason e)) session

end Session

/-- A utility is given its arguments. -/
abbrev Utility := (arguments : List String) → Session → Session

/-- The letters of the options at the start, and the arguments after them. -/
def splitOptions : List String → List Char × List String
  | [] => ([], [])
  | argument :: rest =>
    match argument.toList with
    | ['-', '-'] => ([], rest)
    | '-' :: letter :: letters =>
      let (more, rest) := splitOptions rest
      (letter :: letters ++ more, rest)
    | _ => ([], argument :: rest)

/-- The lines of bytes, without the line feeds that end them. -/
def byteLines : Bytes → List Bytes
  | [] => []
  | b :: rest =>
    if b = 10 then [] :: byteLines rest
    else
      match byteLines rest with
      | [] => [[b]]
      | line :: more => (b :: line) :: more

def ofByteLines (lines : List Bytes) : Bytes :=
  lines.flatMap (· ++ [10])

def words (s : List Char) : List (List Char) :=
  (split isBlank s).filter fun word => !word.isEmpty

/-! ## Output -/

/-- The letters of the options of `echo`, and the arguments after them. -/
def echoOptions : List String → List Char × List String
  | [] => ([], [])
  | argument :: rest =>
    match argument.toList with
    | '-' :: letter :: letters =>
      if (letter :: letters).all (['n', 'e', 'E'].contains ·) then
        let (more, rest) := echoOptions rest
        (letter :: letters ++ more, rest)
      else ([], argument :: rest)
    | _ => ([], argument :: rest)

def echo : Utility := fun arguments session =>
  let (newline, reads, arguments) := match session.dialect, arguments with
    | .sh, "-n" :: rest => (false, true, rest)
    | .sh, arguments => (true, true, arguments)
    | .bash, arguments =>
      let (letters, rest) := echoOptions arguments
      let last := (letters.filter (· ≠ 'n')).getLast?
      (!letters.contains 'n', last = some 'e', rest)
  let text := " ".intercalate arguments
  let (bytes, ended) := if reads then escaped (session.dialect = .bash) (session.dialect = .bash) text.toList
    else (utf8Encode text, false)
  (session.write (bytes ++ if newline && !ended then [10] else [])).succeed

def printf : Utility := fun arguments session =>
  match arguments with
  | [] | ["--"] => session.complain 2 "printf: usage: printf format [arg ...]"
  | "--" :: format :: rest | format :: rest =>
    let (bytes, status) := formatted (session.dialect = .bash) format.toList
      (rest.map String.toList)
    (session.write bytes).returns status

/-- The number of lines that stand for a row of lines without end. -/
def endless : Nat :=
  20000

def yes : Utility := fun arguments session =>
  let line := utf8Encode (if arguments.isEmpty then "y" else " ".intercalate arguments)
  (session.write (ofByteLines (List.replicate endless line))).succeed

def seqUtility : Utility := fun arguments session =>
  let numbers := arguments.map fun argument => integerOf argument.toList
  let (first, step, last) := match numbers with
    | [last] => (1, 1, last)
    | [first, last] => (first, 1, last)
    | [first, step, last] => (first, step, last)
    | _ => (1, 1, 0)
  let count := if step = 0 then 0 else ((last - first) / step + 1).toNat
  let numbers := (List.range count).map fun i => first + step * Int.ofNat i
  (session.print (String.join (numbers.map fun n => toString n ++ "\n"))).succeed

end AssetSeed.Shell
