import AssetSeed.Shell.Utility

/-!
# Filters

Commands that read files, or the input, and write what they make of them.

## Main definitions

* `cat`, `head`, `tail`, `sort`, `uniq`, `grep`, `tac` — choices among lines.
* `tr`, `awk`, `cutUtility`, `rev` — changes and parts of lines.
* `wc` — numbers of lines, words and bytes.
* `tee` — the input, written to files, too.
-/

namespace AssetSeed.Shell

open Text

/-- Lines with their line feeds. The last one may have none. -/
def chunks : Bytes → List Bytes
  | [] => []
  | b :: rest =>
    if b = 10 then [b] :: chunks rest
    else
      match chunks rest with
      | [] => [[b]]
      | line :: more => (b :: line) :: more

/-- A text at the end of a column. -/
def column (width : Nat) (text : String) : String :=
  String.ofList (List.replicate (width - text.length) ' ') ++ text

/-- Lines with their numbers, from one on. -/
def numbered (lines : List Bytes) : List Bytes :=
  lines.mapIdx fun i line => utf8Encode (column 6 (toString (i + 1)) ++ "\t") ++ line

def cat : Utility := fun arguments session =>
  let (letters, names) := splitOptions arguments
  session.succeed.overFiles 1 ("cat: " ++ ·) (fun _ content session =>
    session.write (if letters.contains 'n' then (numbered (chunks content)).flatten else content))
    names

/-! ## Counts -/

/-- The counts that the letters ask for. -/
def counts (letters : List Char) (content : Bytes) : List Nat :=
  let letters := if letters.isEmpty then ['l', 'w', 'c'] else letters
  (if letters.contains 'l' then [content.count 10] else [])
    ++ (if letters.contains 'w' then [(words (utf8Lossy content).toList).length] else [])
    ++ (if letters.contains 'm' then [content.length] else [])
    ++ (if letters.contains 'c' then [content.length] else [])

def wc : Utility := fun arguments session =>
  let (letters, names) := splitOptions arguments
  let sizes := names.map fun name =>
    ((session.openFile name).toOption.map fun opened => opened.1.length).getD 0
  let size := sizes.foldl (· + ·) 0
  let width := if names.isEmpty || names.contains "-" then 7 else (toString size).length
  let shown (name : Option String) (found : List Nat) : String :=
    let cells := found.map toString
    let cells := if cells.length = 1 && names.length ≤ 1 then cells else cells.map (column width)
    " ".intercalate (cells ++ name.toList) ++ "\n"
  let counted := session.succeed.overFiles 1 ("wc: " ++ ·) (fun name content session =>
    session.print (shown name (counts letters content))) names
  if names.length ≤ 1 then counted
  else
    let all := names.map fun name =>
      counts letters (((session.openFile name).toOption.map (·.1)).getD [])
    let total := all.foldl (fun sums found => sums.zipWith (· + ·) found) (counts letters [])
    { counted.print (shown (some "total") total) with status := counted.status }

/-! ## Parts of the input -/

/-- A number of lines or bytes, in one of the ways in which it can be asked for, and the files. The
sign before the number is kept. -/
def amount : List String → Char × List Char × List String
  | [] => ('n', ['1', '0'], [])
  | argument :: rest =>
    match argument.toList with
    | ['-', letter] =>
      if isDigit letter then ('n', [letter], rest)
      else (letter, (rest.headD "").toList, rest.tail)
    | '-' :: letter :: digits =>
      if isDigit letter then ('n', letter :: digits, rest) else (letter, digits, rest)
    | _ => ('n', ['1', '0'], argument :: rest)

/-- The start of a message about a file. -/
def cannotOpen (command name : String) : String :=
  command ++ ": cannot open '" ++ name ++ "' for reading"

/-- Names the file before its part if there are several of them. -/
def overParts (command : String) (part : Bytes → Bytes) (names : List String) (session : Session) :
    Session :=
  session.succeed.overFiles 1 (cannotOpen command) (fun name content session =>
    let session := match name, names with
      | some name, _ :: _ :: _ =>
        let gap := if session.output.isEmpty then "" else "\n"
        session.print (gap ++ "==> " ++ name ++ " <==\n")
      | _, _ => session
    session.write (part content)) names

def head : Utility := fun arguments =>
  let (unit, count, names) := amount arguments
  let part {α : Type} (items : List α) : List α :=
    match count with
    | '-' :: digits => items.take (items.length - decimalValue digits)
    | digits => items.take (integerOf digits).toNat
  overParts "head" (fun content => if unit = 'c' then part content else (part (chunks content)).flatten)
    names

def tail : Utility := fun arguments =>
  let (unit, count, names) := amount arguments
  let part {α : Type} (items : List α) : List α :=
    match count with
    | '+' :: digits => items.drop (decimalValue digits - 1)
    | digits => items.drop (items.length - (integerOf digits).toNat)
  overParts "tail" (fun content => if unit = 'c' then part content else (part (chunks content)).flatten)
    names

/-- Applies a change to the lines of all files together. -/
def overLines (trouble : Nat) (tell : String → String) (change : List Bytes → List Bytes) (names : List String)
    (session : Session) : Session :=
  let gathered := session.succeed.overFiles trouble tell (fun _ content session =>
    { session with output := session.output ++ [(0, ofByteLines (byteLines content))] }) names
  let lines := byteLines (gathered.written 0)
  let cleared := { gathered with output := gathered.output.filter fun chunk => chunk.1 ≠ 0 }
  (cleared.write (ofByteLines (change lines))).returns gathered.status

def sort : Utility := fun arguments =>
  let (letters, names) := splitOptions arguments
  let number (line : Bytes) : Int := integerOf (trimStart (utf8Lossy line).toList)
  overLines 2 ("sort: cannot read: " ++ ·) (fun lines =>
    let byNumber (a b : Bytes) : Bool := number a < number b || (number a = number b && a ≤ b)
    let sorted := if letters.contains 'n' then lines.mergeSort byNumber
      else lines.mergeSort fun a b => a ≤ b
    let sorted := if letters.contains 'r' then sorted.reverse else sorted
    if letters.contains 'u' then sorted.eraseDups else sorted) names

def tac : Utility := fun arguments session =>
  session.succeed.overFiles 1 ("tac: " ++ ·) (fun _ content session =>
    session.write (chunks content).reverse.flatten) (splitOptions arguments).2

/-! ## Search -/

/-- Whether a line holds a text, at its start or end if that is asked for. -/
def holds (pattern line : List Char) : Bool :=
  let fromStart := ['^'].isPrefixOf pattern
  let pattern := if fromStart then pattern.tail else pattern
  let toEnd := endsWith ['$'] pattern
  let pattern := if toEnd then pattern.dropLast else pattern
  match fromStart, toEnd with
  | true, true => line = pattern
  | true, false => pattern.isPrefixOf line
  | false, true => endsWith pattern line
  | false, false => occursIn pattern line

def grep : Utility := fun arguments session =>
  let (letters, rest) := splitOptions arguments
  match rest with
  | [] => session.complain 2 "usage: grep pattern [file ...]"
  | pattern :: names =>
    let cased (s : List Char) : List Char :=
      if letters.contains 'i' then s.map Char.toLower else s
    let wanted (line : Bytes) : Bool :=
      let line := cased (utf8Lossy line).toList
      let pattern := cased pattern.toList
      (if letters.contains 'x' then line = pattern
        else if letters.contains 'F' then occursIn pattern line
        else holds pattern line) != letters.contains 'v'
    let before (name : Option String) (i : Nat) : Bytes :=
      utf8Encode ((if 1 < names.length then name.getD "" ++ ":" else "")
        ++ (if letters.contains 'n' then toString (i + 1) ++ ":" else ""))
    (session.returns 1).overFiles 2 ("grep: " ++ ·) (fun name content session =>
      let lines := (byteLines content).mapIdx fun i line => (i, line)
      let found := lines.filter fun (_, line) => wanted line
      let session := if found.isEmpty then session else session.succeed
      if letters.contains 'q' then session
      else if letters.contains 'c' then
        { session.write (before name 0 ++ utf8Encode (toString found.length ++ "\n")) with
          status := session.status }
      else if letters.contains 'l' then
        if found.isEmpty then session else session.print (name.getD "(standard input)" ++ "\n")
      else session.write (ofByteLines (found.map fun (i, line) => before name i ++ line))) names

/-! ## Fields -/

/-- The fields of a line. -/
def lineFields (separator : Option Char) (line : List Char) : List (List Char) :=
  match separator with
  | none => words line
  | some sep => if line.isEmpty then [] else split (· = sep) line

/-- The field of a line that an expression names. -/
def fieldOf (separator : Option Char) (line : List Char) (number : Nat) (expression : List Char) :
    List Char :=
  let found := lineFields separator line
  match expression with
  | ['$', 'N', 'F'] => found.getLastD []
  | '$' :: digits =>
    if decimalValue digits = 0 then line else found.getD (decimalValue digits - 1) []
  | ['N', 'F'] => (toString found.length).toList
  | ['N', 'R'] => (toString number).toList
  | other => other.filter (· ≠ '"')

/-- The expressions of a program that prints them for every line. -/
def printed? (program : List Char) : Option (List (List Char)) :=
  match words (replace ['\x7b'] [' '] (replace ['\x7d'] [' '] (replace [','] [' '] program))) with
  | command :: expressions => if command = "print".toList then some expressions else none
  | [] => none

/-- The separator that arguments ask for, and the arguments after it. -/
def separatorOption : List String → Option Char × List String
  | "-F" :: sep :: rest => (sep.toList.head?, rest)
  | argument :: rest =>
    match argument.toList with
    | ['-', 'F', sep] => (some sep, rest)
    | _ => (none, argument :: rest)
  | [] => (none, [])

def awk : Utility := fun arguments session =>
  match separatorOption arguments with
  | (separator, program :: names) =>
    match printed? program.toList with
    | none => session.complain 2 "awk: program not understood"
    | some expressions =>
      let expressions := if expressions.isEmpty then [['$', '0']] else expressions
      session.succeed.overFiles 2 ("awk: " ++ ·) (fun _ content session =>
        (((byteLines content).mapIdx fun i line => (i, line))).foldl (fun session (i, line) =>
          let chars := (utf8Lossy line).toList
          session.print (String.ofList (unlines
            [joinWith [' '] (expressions.map (fieldOf separator chars (i + 1)))]))) session) names
  | (_, []) => session.complain 2 "usage: awk program [file ...]"

/-- A list of numbers and ranges of numbers. A range without an end has none. -/
def ranges (list : List Char) : List (Nat × Option Nat) :=
  (split (· = ',') list).map fun piece =>
    match cut? '-' piece with
    | none => (decimalValue piece, some (decimalValue piece))
    | some (first, last) =>
      (max 1 (decimalValue first), if last.isEmpty then none else some (decimalValue last))

/-- The items whose numbers are in a list. -/
def selected {α : Type} (list : List Char) (items : List α) : List α :=
  ((items.mapIdx fun i item => (i + 1, item)).filter fun (n, _) =>
    (ranges list).any fun (first, last) => first ≤ n && last.all (n ≤ ·)).map (·.2)

/-- Which parts of a line are kept. -/
structure Parts where
  /-- The letter of the option that gave the list. -/
  kind : Char := ' '
  list : List Char := []
  separator : UInt8 := 9

/-- The parts with an option whose value is given. -/
def Parts.withOption (parts : Parts) (letter : Char) (value : String) : Parts :=
  if letter = 'd' then { parts with separator := (utf8Encode value).headD 9 }
  else { parts with kind := letter, list := value.toList }

/-- The parts that arguments ask for, and the files. -/
def readParts (parts : Parts) : List String → Parts × List String
  | [] => (parts, [])
  | argument :: rest =>
    match argument.toList with
    | ['-', 's'] => readParts parts rest
    | ['-', letter] =>
      match rest with
      | value :: rest => readParts (parts.withOption letter value) rest
      | [] => (parts, [])
    | '-' :: letter :: value => readParts (parts.withOption letter (String.ofList value)) rest
    | _ => (parts, argument :: rest)

def cutUtility : Utility := fun arguments session =>
  let (parts, names) := readParts {} arguments
  let sep := parts.separator
  let part (line : Bytes) : Bytes :=
    if parts.kind = 'f' then
      if line.contains sep then [sep].intercalate (selected parts.list (split (· = sep) line))
      else line
    else selected parts.list line
  if parts.kind = ' ' then session.complain 1 "cut: you must specify a list"
  else session.succeed.overFiles 1 ("cut: " ++ ·) (fun _ content session =>
    session.write (ofByteLines ((byteLines content).map part))) names

def rev : Utility := fun arguments session =>
  session.succeed.overFiles 1 ("rev: " ++ ·) (fun _ content session =>
    session.write (ofByteLines ((byteLines content).map fun line =>
      utf8Encode (String.ofList (utf8Lossy line).toList.reverse)))) (splitOptions arguments).2

/-! ## Repeats and exchanges -/

/-- Each row of equal lines as one line, with its length. -/
def repeats : List Bytes → List (Nat × Bytes)
  | [] => []
  | line :: rest =>
    match repeats rest with
    | (n, next) :: more =>
      if line = next then (n + 1, line) :: more else (1, line) :: (n, next) :: more
    | [] => [(1, line)]

def uniq : Utility := fun arguments =>
  let (letters, names) := splitOptions arguments
  overLines 1 ("uniq: " ++ ·) (fun lines =>
    let rows := (repeats lines).filter fun (n, _) =>
      (!letters.contains 'd' || 1 < n) && (!letters.contains 'u' || n = 1)
    rows.map fun (n, line) =>
      if letters.contains 'c' then utf8Encode (column 7 (toString n) ++ " ") ++ line else line) names

/-- The characters of a set, in which two characters with a dash between them stand for a range.
`fuel` bounds its length. -/
def charSet : (fuel : Nat) → List Char → List Char
  | 0, _ => []
  | _, [] => []
  | fuel + 1, '[' :: ':' :: rest =>
    let chars := (Pattern.namedClass (rest.takeWhile (· ≠ ':'))).flatMap fun (a, b) =>
      (List.range (b + 1 - a)).map fun i => Char.ofNat (a + i)
    chars ++ charSet fuel ((rest.dropWhile (· ≠ ':')).drop 2)
  | fuel + 1, '\\' :: c :: rest =>
    if isOctalDigit c then
      let (byte, rest) := octalByte (c :: rest)
      Char.ofNat byte.toNat :: charSet fuel rest
    else
      ((escapeByte? c).map fun byte => Char.ofNat byte.toNat).getD c :: charSet fuel rest
  | fuel + 1, a :: '-' :: b :: rest =>
    (List.range (b.toNat + 1 - a.toNat)).map (fun i => Char.ofNat (a.toNat + i))
      ++ charSet fuel rest
  | fuel + 1, c :: rest => c :: charSet fuel rest

/-- The bytes with one byte for each row of equal ones that are in a set. -/
def squeezed (set : List Char) : Bytes → Bytes
  | a :: b :: rest =>
    if a = b && set.contains (Char.ofNat a.toNat) then squeezed set (b :: rest)
    else a :: squeezed set (b :: rest)
  | bytes => bytes

/-- Exchanges bytes of a set for those of another one, drops them, or keeps one of each row. -/
def tr : Utility := fun arguments session =>
  let (letters, sets) := splitOptions arguments
  let set (text : String) : List Char :=
    charSet text.length ((utf8Encode text).map fun b => Char.ofNat b.toNat)
  let old := set (sets.headD "")
  let new := set (sets.tail.headD "")
  let complement := letters.contains 'c' || letters.contains 'C'
  let deletes := letters.contains 'd'
  let exchanged (b : UInt8) : Bytes :=
    let c := Char.ofNat b.toNat
    let place? := if complement then (if old.contains c then none else some new.length)
      else old.idxOf? c
    match place? with
    | none => [b]
    | some i =>
      if deletes then [] else if new.isEmpty then [b]
      else [UInt8.ofNat (new.getD i (new.getLastD c)).toNat]
  let changed := session.input.flatMap exchanged
  let changed := if letters.contains 's' then
      squeezed (if deletes || !new.isEmpty then new else old) changed
    else changed
  ({ session with input := [] }.write changed).succeed

def tee : Utility := fun arguments session =>
  let (letters, names) := splitOptions arguments
  let content := session.input
  let session := { session with input := [] }.write content
  names.foldl (fun session name =>
    let old := if letters.contains 'a' then ((session.disk.read ⟨name⟩).toOption.getD []) else []
    if name = nullDevice then session
    else
      match session.disk.write ⟨name⟩ (old ++ content) with
      | .ok disk => { session with disk }
      | .error e => session.complain 1 ("tee: " ++ name ++ ": " ++ reason e)) session.succeed

end AssetSeed.Shell
