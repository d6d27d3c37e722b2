import AssetSeed.Environment.Basic
import AssetSeed.Files.Disk
import AssetSeed.Text.Alphanumeric

/-!
# Files of variables

A file gives variables, one in a line: a name, an equals sign, and a value. A value may stand in
quotes, go on over several lines within them, and name variables that are known already.

## Main definitions

* `Quoting`, `entryLines` — the lines that belong together.
* `ValueReader` — the value that a text stands for.
* `readEntry` — the variable that a line gives.
* `Environment.load?`, `Environment.ofDisk?` — the environment with the variables of a file.
-/

namespace AssetSeed

namespace EnvironmentFile

open Text

/-! ## Lines -/

/-- Where a text stands after some of its characters, as far as quotes and comments matter. -/
inductive Quoting where
  | plain
  /-- After a blank, where a comment may begin. -/
  | blank
  | escaped
  | weak
  | weakEscaped
  | strong
  | strongEscaped
deriving Repr, DecidableEq

namespace Quoting

def unquoted (c : Char) : Quoting :=
  match c with
  | '\\' => escaped
  | '"' => weak
  | '\'' => strong
  | _ => plain

/-- The place after a character that begins no comment. A blank after a blank is plain again. -/
def next : Quoting → Char → Quoting
  | plain, c => if isBlank c && c ≠ '\n' && c ≠ '\r' then blank else unquoted c
  | blank, c => unquoted c
  | escaped, _ => plain
  | weak, '\\' => weakEscaped
  | weak, '"' => plain
  | weak, _ => weak
  | weakEscaped, _ => weak
  | strong, '\\' => strongEscaped
  | strong, '\'' => plain
  | strong, _ => strong
  | strongEscaped, _ => strong

/-- The part of a line before its comment, and where it ends; `none` stands for a comment. -/
def scan : Quoting → List Char → List Char × Option Quoting
  | state, [] => ([], some state)
  | state, c :: rest =>
    if state = blank ∧ c = '#' then ([], none)
    else
      let (before, after) := scan (state.next c) rest
      (c :: before, after)

end Quoting

/-- The lines of a text, each with the line feed that ends it. -/
def fullLines : List Char → List (List Char)
  | [] => []
  | '\n' :: rest => ['\n'] :: fullLines rest
  | c :: rest =>
    match fullLines rest with
    | [] => [[c]]
    | line :: more => (c :: line) :: more

def withoutLineEnd (line : List Char) : List Char :=
  match line.reverse with
  | '\n' :: '\r' :: before => before.reverse
  | '\n' :: before => before.reverse
  | _ => line

/-- Puts the lines together that quotes hold together, after those `held` so far. Where the text
ends before they do, there is no line. -/
def gather : Quoting → (held : List Char) → List (List Char) → List (Option (List Char))
  | state, _, [] => if state = .plain then [] else [none]
  | state, held, line :: rest =>
    if ['#'].isPrefixOf (trimStart (held ++ line)) then some [] :: gather .plain [] rest
    else
      match state.scan line with
      | (before, none) => some (held ++ before) :: gather .plain [] rest
      | (_, some .plain) => some (withoutLineEnd (held ++ line)) :: gather .plain [] rest
      | (_, some unclosed) => gather unclosed (held ++ line) rest

/-! ## Values -/

inductive Phase where
  | plain
  | strong
  | escaped
  /-- After a blank that ends the value. Only a comment may follow. -/
  | ended
  /-- In the name of a variable. -/
  | name (letters : List Char)
  /-- In the name of a variable between braces. -/
  | braced (letters : List Char)
deriving Repr, DecidableEq

structure ValueReader where
  phase : Phase := .plain
  /-- Whether a double quote is open. -/
  weak : Bool := false
  output : List Char := []
deriving Repr, DecidableEq

namespace ValueReader

def push (reader : ValueReader) (c : Char) : ValueReader :=
  { reader with output := reader.output ++ [c] }

/-- Puts the value of a variable in; one that is not known has none. -/
def expand (env : Environment) (reader : ValueReader) (letters : List Char) : ValueReader :=
  { reader with output := reader.output ++ (env.getD (String.ofList letters) "").toList }

def enter (reader : ValueReader) (phase : Phase) : ValueReader :=
  { reader with phase }

/-- A character that stands for itself or opens something. -/
def plainStep (reader : ValueReader) (c : Char) : ValueReader :=
  match c, reader.weak with
  | '$', _ => reader.enter (.name [])
  | '\\', _ => reader.enter .escaped
  | '"', weak => { reader with weak := !weak }
  | '\'', false => reader.enter .strong
  | ' ', false | '\t', false => reader.enter .ended
  | c, _ => reader.push c

/-- The reader after a character that ends no value; `none` if it may not stand there. -/
def step (env : Environment) (reader : ValueReader) (c : Char) : Option ValueReader :=
  match reader.phase with
  | .plain => some (reader.plainStep c)
  | .strong => some (if c = '\'' then reader.enter .plain else reader.push c)
  | .escaped =>
    if c = 'n' then some ((reader.push '\n').enter .plain)
    else if ['\\', '\'', '"', '$', ' '].contains c then some ((reader.push c).enter .plain)
    else none
  | .ended => if c = ' ' || c = '\t' then some reader else none
  | .name letters =>
    if isLetterOrNumber c then some (reader.enter (.name (letters ++ [c])))
    else if c = '\x7b' && letters.isEmpty then some (reader.enter (.braced []))
    else
      let reader := reader.expand env letters
      some (if c = '$' then reader.enter (.name []) else (reader.push c).enter .plain)
  | .braced letters =>
    if c = '\x7d' then some ((reader.expand env letters).enter .plain)
    else some (reader.enter (.braced (letters ++ [c])))

/-- The value at the end of the text; `none` if something is open there. -/
def finish? (env : Environment) (reader : ValueReader) : Option (List Char) :=
  if reader.weak then none
  else
    match reader.phase with
    | .strong | .braced _ => none
    | .name letters => some (reader.expand env letters).output
    | _ => some reader.output

def read? (env : Environment) : ValueReader → List Char → Option (List Char)
  | reader, [] => reader.finish? env
  | reader, c :: rest =>
    if reader.phase = .ended ∧ c = '#' then reader.finish? env
    else
      match reader.step env c with
      | some reader => reader.read? env rest
      | none => none

end ValueReader

/-! ## Entries -/

def startsName (c : Char) : Bool :=
  (isAlphanumeric c && !isDigit c) || c = '_'

def continuesName (c : Char) : Bool :=
  isAlphanumeric c || c = '_' || c = '.'

/-- A name, and what follows it after white space. -/
def readName? (s : List Char) : Option (List Char × List Char) :=
  match s with
  | [] => none
  | c :: _ =>
    if startsName c then some (s.takeWhile continuesName, trimStart (s.dropWhile continuesName))
    else none

/-- The name before an equals sign, and what follows the sign. The word `export` before the name
means nothing. -/
def readTarget? (s : List Char) : Option (List Char × List Char) :=
  match readName? s with
  | none => none
  | some (name, '=' :: rest) => some (name, trimStart rest)
  | some (name, rest) =>
    if name = "export".toList then
      match readName? rest with
      | some (name, '=' :: rest) => some (name, trimStart rest)
      | _ => none
    else none

inductive Entry where
  | nothing
  | variable (name value : String)
  | broken
deriving Repr, DecidableEq

def readEntry (env : Environment) (line : List Char) : Entry :=
  let line := trimStart (trimEnd line)
  if line.isEmpty || ['#'].isPrefixOf line then .nothing
  else
    match readTarget? line with
    | none => .broken
    | some (name, value) =>
      let value? :=
        if value.isEmpty || ['#'].isPrefixOf value then some []
        else ValueReader.read? env {} value
      match value? with
      | some value => .variable (String.ofList name) (String.ofList value)
      | none => .broken

end EnvironmentFile

namespace Environment

open EnvironmentFile

/-- Whether a variable can have a value: a zero would end it. -/
def isSettable (value : String) : Bool :=
  !value.toList.contains '\x00'

/-- Adds the variables of lines, up to the first one that is broken. What the environment has is
kept. None is the result if a new variable gets a value that it cannot have. -/
def loadLines? : Environment → List (Option (List Char)) → Option Environment
  | env, [] => some env
  | env, none :: _ => some env
  | env, some line :: rest =>
    match readEntry env line with
    | .nothing => env.loadLines? rest
    | .variable name value =>
      if env.contains name then env.loadLines? rest
      else if isSettable value then (env.set name value).loadLines? rest
      else none
    | .broken => some env

/-- The characters of a file up to the first line that is no text. A mark of the byte order at the
start does not count. -/
def textOf (content : Bytes) : List Char :=
  let content := if [0xef, 0xbb, 0xbf].isPrefixOf content then content.drop 3 else content
  let readable := (Text.scalars 0 content).takeWhile Option.isSome
  let chars := readable.filterMap id
  if readable.length = (Text.scalars 0 content).length then chars
  else (chars.reverse.dropWhile (· ≠ '\n')).reverse

def load? (env : Environment) (content : Bytes) : Option Environment :=
  env.loadLines? (gather .plain [] (fullLines (textOf content)))

/-- The name of a file of variables. -/
def fileName : String :=
  ".env"

def fileAt? (tree : FileTree) (place : List String) : Option File :=
  match tree.get? (place ++ [fileName]) with
  | some (.file found) => some found
  | _ => none

/-- The nearest file of variables in a directory or above it, where the directory is given from the
inside out. -/
def nearestFile? (tree : FileTree) : (inside : List String) → Option File
  | [] => fileAt? tree []
  | name :: above => (fileAt? tree (name :: above).reverse).or (nearestFile? tree above)

/-- The environment with the variables of the nearest file, unless one of them cannot be set. -/
def ofDisk? (env : Environment) (disk : Disk) : Option Environment :=
  match nearestFile? disk.tree disk.current.reverse with
  | some found => env.load? found.content
  | none => some env

end Environment

end AssetSeed
