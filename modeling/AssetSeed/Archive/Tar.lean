import AssetSeed.Archive.Bits
import AssetSeed.Text.Numeral
import AssetSeed.Text.Pieces

/-!
# Archives of files

An archive is a row of members, each with a header of 512 bytes and its content, filled up to whole
blocks of that size. Some members only tell more about the next one: a long name, or a list of
records. The content of a sparse file is kept in pieces, with the places of the pieces in the header
and in blocks behind it.

## Main definitions

* `Tar.Member` — a file, a directory or a link.
* `Tar.Contents` — the members of an archive, as far as they can be read.
* `Tar.read` — reads an archive.
-/

namespace AssetSeed.Archive.Tar

open Text

inductive Kind where
  | file
  | dir
  /-- A directory by its name, which ends in a slash, and not by its flag. -/
  | slashDir
  /-- Another name for a file. -/
  | hardLink (target : Option Bytes)
  | symbolicLink (target : Option Bytes)
  /-- Only tells about other members. -/
  | note
deriving Repr, DecidableEq

structure Member where
  path : Bytes
  kind : Kind
  executable : Bool
  content : Bytes
  /-- Whether the whole content is there. -/
  complete : Bool
deriving Repr, DecidableEq

/-- The members of an archive, as far as they can be read, and whether that is all of them. -/
structure Contents where
  members : List Member
  sound : Bool
deriving Repr, DecidableEq

def blockSize : Nat :=
  512

/-- The length of whole blocks that hold so many bytes. -/
def padded (size : Nat) : Nat :=
  (size + blockSize - 1) / blockSize * blockSize

/-- What places and sizes in an archive stay below. -/
def sizeLimit : Nat :=
  1 <<< 64

/-! ## Headers -/

/-- The field of a header that starts at a place and has a width. -/
def field (header : Bytes) (start width : Nat) : Bytes :=
  (header.drop start).take width

/-- The bytes before the first zero. -/
def upToZero (bytes : Bytes) : Bytes :=
  bytes.takeWhile (· ≠ 0)

/-- A number in octal digits, with white space around it and a plus sign before it allowed. -/
def octal? (bytes : Bytes) : Option Nat := do
  let text := trim (← utf8Decode? (upToZero bytes)).toList
  let digits := if text.head? = some '+' then text.drop 1 else text
  if digits.isEmpty || !digits.all (fun c => '0' ≤ c && c ≤ '7') then none
  let n := numeralValue 8 digitValue digits
  if n < sizeLimit then some n else none

/-- A size in a header: in octal digits or, if the highest bit is set, in the last eight bytes. -/
def size? (bytes : Bytes) : Option Nat :=
  match bytes with
  | [] => none
  | first :: _ =>
    if first.toNat.testBit 7 then
      some ((bytes.drop (bytes.length - 8)).foldl (fun n b => n * 256 + b.toNat) 0)
    else octal? bytes

/-- The sum of a header, with its own field counted as blanks. -/
def headerSum (header : Bytes) : Nat :=
  (header.take 148 ++ header.drop 156).foldl (fun sum b => sum + b.toNat) (8 * 32)

/-- The form of a header, which the mark in it tells. -/
inductive Form where
  | old
  | standard
  | extended
deriving Repr, DecidableEq

def Form.ofMark (mark : Bytes) : Form :=
  if mark = utf8Encode "ustar" ++ [0, 0x30, 0x30] then .standard
  else if mark = utf8Encode "ustar  " ++ [0] then .extended
  else .old

structure Header where
  name : Bytes
  flag : UInt8
  executable : Bool
  size : Nat
  target : Bytes
  form : Form
  /-- All of the header. -/
  block : Bytes
deriving Repr, DecidableEq

/-- The name in a header. The standard form has room for what stands before it. -/
def nameOf (form : Form) (header : Bytes) : Bytes :=
  let name := upToZero (field header 0 100)
  let before := upToZero (field header 345 155)
  if form = .standard && !before.isEmpty then before ++ [0x2f] ++ name else name

def header? (block : Bytes) : Option Header := do
  let sum ← octal? (field block 148 8)
  if sum % (1 <<< 32) ≠ headerSum block then none
  let size ← size? (field block 124 12)
  let form := Form.ofMark (field block 257 8)
  return {
    name := nameOf form block
    flag := block[156]?.getD 0
    executable := ((octal? (field block 100 8)).getD 0).testBit 6
    size
    target := upToZero (field block 157 100)
    form
    block }

/-! ## Notes -/

/-- The key and the value of a record. A record is a line that starts with its own length. -/
def record? (line : Bytes) : Option (Bytes × Bytes) := do
  let (length, rest) ← cut? 0x20 line
  let length ← natural? (sizeLimit - 1) (← utf8Decode? length).toList
  if length ≠ line.length + 1 then none
  cut? 0x3d rest

/-- The records of a list, which ends at the first empty line. A line that is no record gives
none. -/
def recordsOf (list : Bytes) : List (Option (Bytes × Bytes)) :=
  ((split (· = 0x0a) list).takeWhile (!·.isEmpty)).map record?

/-- What earlier members told about the next one. -/
structure Notes where
  longName : Option Bytes := none
  longTarget : Option Bytes := none
  records : Option Bytes := none
deriving Repr, DecidableEq

/-- The value of a key in the records. -/
def Notes.value? (notes : Notes) (key : String) : Option Bytes :=
  let found := ((recordsOf (notes.records.getD [])).filterMap id).find? fun record =>
    record.1 = utf8Encode key
  found.map (·.2)

/-- The size that the records tell. It has to be told before the first line that is no record. -/
def Notes.size? (notes : Notes) : Option Nat :=
  let isOther (record : Option (Bytes × Bytes)) : Bool :=
    record.any fun record => record.1 ≠ utf8Encode "size"
  match (recordsOf (notes.records.getD [])).dropWhile isOther with
  | some (_, value) :: _ =>
    (utf8Decode? value).bind fun text => natural? (sizeLimit - 1) text.toList
  | _ => none

/-- A name without the zero that ends it. -/
def withoutEnd (name : Bytes) : Bytes :=
  if name.getLast? = some 0 then name.dropLast else name

/-- The path of a member: what a note tells or, if there is none, the header. -/
def Notes.path (notes : Notes) (header : Header) : Bytes :=
  ((notes.longName.map withoutEnd).or (notes.value? "path")).getD header.name

/-- The target of a link, if there is one. -/
def Notes.target? (notes : Notes) (header : Header) : Option Bytes :=
  let own := if header.target.isEmpty then none else some header.target
  ((notes.longTarget.map withoutEnd).or (notes.value? "linkpath")).or own

/-- The notes with those of a member, if it is a note. There may be one note of each kind. -/
def Notes.add? (notes : Notes) (header : Header) (content : Bytes) : Option (Option Notes) :=
  let put (old : Option Bytes) (new : Notes) : Option (Option Notes) :=
    if old.isSome then none else some (some new)
  if header.form = .old then some none
  else if header.flag = 0x4c then put notes.longName { notes with longName := some content }
  else if header.flag = 0x4b then put notes.longTarget { notes with longTarget := some content }
  else if header.flag = 0x78 then put notes.records { notes with records := some content }
  else some none

/-! ## Sparse files -/

/-- A piece of a sparse file: where it starts, and its length. -/
structure Piece where
  start : Nat
  length : Nat
deriving Repr, DecidableEq

/-- The pieces that `count` descriptions tell. A description is empty if one of its halves is, and
none if a half is no number. -/
def pieces? : (count : Nat) → Bytes → Option (List Piece)
  | 0, _ => some []
  | count + 1, bytes => do
    let start := bytes.take 12
    let length := (bytes.drop 12).take 12
    let rest ← pieces? count (bytes.drop 24)
    if start.head? = some 0 || length.head? = some 0 then some rest
    else some (⟨← size? start, ← size? length⟩ :: rest)

/-- The pieces that blocks behind a header describe, and what is behind those blocks. There are at
most `fuel` of them, and the last one says so. -/
def morePieces? : (fuel : Nat) → Bytes → Option (List Piece × Bytes)
  | 0, _ => none
  | fuel + 1, bytes => do
    let block := bytes.take blockSize
    if block.length < blockSize then none
    let pieces ← pieces? 21 block
    if block[504]? = some 1 then
      let (more, behind) ← morePieces? fuel (bytes.drop blockSize)
      return (pieces ++ more, behind)
    else return (pieces, bytes.drop blockSize)

/-- The length of a file made of pieces, from `reached` on, if each piece starts behind the one
before, only the last one is not made of whole blocks, and all of them take `size` bytes in the
archive. -/
def lengthOf? : (reached taken size : Nat) → List Piece → Option Nat
  | reached, taken, size, [] => if taken = size then some reached else none
  | reached, taken, size, piece :: rest =>
    if piece.length ≠ 0 && taken % blockSize ≠ 0 then none
    else if piece.start < reached then none
    else if sizeLimit ≤ piece.start + piece.length then none
    else if size < taken + piece.length then none
    else lengthOf? (piece.start + piece.length) (taken + piece.length) size rest

/-- The content of a file made of pieces, with zeros between them, up to the first piece that is not
all there. -/
def assemble : (reached : Nat) → (data : Bytes) → List Piece → Bytes
  | _, _, [] => []
  | reached, data, piece :: rest =>
    List.replicate (piece.start - reached) 0 ++ data.take piece.length
      ++ (if data.length < piece.length then []
        else assemble (piece.start + piece.length) (data.drop piece.length) rest)

/-- What a header describes: the pieces, and the bytes behind the descriptions. -/
def sparse? (header : Header) (size : Nat) (bytes : Bytes) : Option (List Piece × Bytes) := do
  if header.form ≠ .extended then none
  let first ← pieces? 4 (field header.block 386 96)
  let (more, behind) ← if header.block[482]? = some 1
    then morePieces? (bytes.length / blockSize + 1) bytes else some ([], bytes)
  let pieces := first ++ more
  let length ← lengthOf? 0 0 size pieces
  if some length = octal? (field header.block 483 12) then some (pieces, behind) else none

/-! ## Members -/

def kindOf (notes : Notes) (header : Header) : Kind :=
  if header.flag = 0x35 then .dir
  else if header.flag = 0x31 then .hardLink (notes.target? header)
  else if header.flag = 0x32 then .symbolicLink (notes.target? header)
  else if [0x67, 0x78, 0x4b, 0x4c].contains header.flag then .note
  else if header.form ≠ .standard && (notes.path header).getLast? = some 0x2f then .slashDir
  else .file

def Contents.cons (member : Member) (contents : Contents) : Contents :=
  { contents with members := member :: contents.members }

/-- The pieces of a member's content, and the bytes from the first of them on. -/
def piecesOf? (header : Header) (size : Nat) (bytes : Bytes) : Option (List Piece × Bytes) :=
  if header.flag = 0x53 then sparse? header size bytes else some ([⟨0, size⟩], bytes)

/-- Reads members off the bytes from a position on, at most `fuel` of them. `sound` tells whether
the bytes are all there were to be. An archive ends with a block of zeros or with its last byte. -/
def readMembers (sound : Bool) : (fuel position : Nat) → Notes → Bytes → Contents
  | 0, _, _, _ => ⟨[], false⟩
  | fuel + 1, position, notes, bytes =>
    let block := bytes.take blockSize
    let rest := bytes.drop blockSize
    if bytes.isEmpty then ⟨[], sound && notes = {}⟩
    else if block.length < blockSize then ⟨[], false⟩
    else if block.all (· = 0) then ⟨[], notes = {}⟩
    else
      match header? block with
      | none => ⟨[], false⟩
      | some header =>
        let size := notes.size?.getD header.size
        let next := position + blockSize + padded size
        if sizeLimit ≤ next then ⟨[], false⟩
        else
          match notes.add? header (rest.take size) with
          | none => ⟨[], false⟩
          | some (some notes) =>
            if rest.length < padded size then ⟨[], false⟩
            else readMembers sound fuel next notes (rest.drop (padded size))
          | some none =>
            match piecesOf? header size rest with
            | none => ⟨[], false⟩
            | some (pieces, data) =>
              let found := {
                path := notes.path header
                kind := kindOf notes header
                executable := header.executable
                content := assemble 0 data pieces
                complete := size ≤ data.length }
              let next := next + (rest.length - data.length)
              if data.length < padded size then ⟨[found], false⟩
              else (readMembers sound fuel next {} (data.drop (padded size))).cons found

/-- Reads an archive. Each member takes at least one block. -/
def read (bytes : Bytes) (sound : Bool) : Contents :=
  readMembers sound (bytes.length / blockSize + 2) 0 {} bytes

end AssetSeed.Archive.Tar
