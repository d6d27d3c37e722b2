import AssetSeed.Archive.Inflate

/-!
# Compressed files

A compressed file has a header, compressed data, and a trailer with a checksum and a length. What
stands behind the trailer is not looked at.

## Main definitions

* `checksum` — the cyclic redundancy check of 32 bits.
* `Gzip.isCompressed` — whether bytes begin as a compressed file does.
* `Gzip.Content` — what can be read out of a compressed file.
* `Gzip.decode` — reads a compressed file.
-/

namespace AssetSeed.Archive

/-- Takes one bit through the check. -/
def checksumBit (x : UInt32) : UInt32 :=
  if x &&& 1 = 1 then (0xedb88320 : UInt32) ^^^ (x >>> 1) else x >>> 1

def checksumByte (x : UInt32) (b : UInt8) : UInt32 :=
  (List.range 8).foldl (fun x _ => checksumBit x) (x ^^^ b.toUInt32)

def checksum (bytes : Bytes) : UInt32 :=
  (bytes.foldl checksumByte 0xffffffff) ^^^ 0xffffffff

namespace Gzip

def magic : Bytes :=
  [0x1f, 0x8b]

def isCompressed (bytes : Bytes) : Bool :=
  magic.isPrefixOf bytes

/-- What can be read out of a compressed file, and whether all of it is there and as it should
be. -/
structure Content where
  bytes : Bytes
  sound : Bool
deriving Repr, DecidableEq

/-- The greatest length of a text in the header. -/
def maxText : Nat :=
  65535

/-- The bytes behind a text that ends with a zero, if it is not longer than `room`. -/
def afterText? : (room : Nat) → Bytes → Option Bytes
  | _, [] => none
  | room, b :: rest =>
    if b = 0 then some rest
    else
      match room with
      | 0 => none
      | room + 1 => afterText? room rest

/-- The bytes behind a field that begins with its length. -/
def afterField? (bytes : Bytes) : Option Bytes :=
  match bytes with
  | a :: b :: rest =>
    let size := littleEndian [a, b]
    if size ≤ rest.length then some (rest.drop size) else none
  | _ => none

/-- The bytes behind the check of the header, which starts the file `bytes`. -/
def afterCheck? (bytes rest : Bytes) : Option Bytes :=
  match rest with
  | a :: b :: behind =>
    let header := bytes.take (bytes.length - rest.length)
    if littleEndian [a, b] = (checksum header).toNat % 65536 then some behind else none
  | _ => none

/-- The flags without a meaning, none of which may be set. -/
def reservedFlags : UInt8 :=
  0xe0

/-- The bytes behind the header. -/
def body? (bytes : Bytes) : Option Bytes :=
  match bytes with
  | 0x1f :: 0x8b :: 8 :: flags :: _ :: _ :: _ :: _ :: _ :: _ :: rest => do
    if flags &&& reservedFlags ≠ 0 then none
    let rest ← if flags.toNat.testBit 2 then afterField? rest else some rest
    let rest ← if flags.toNat.testBit 3 then afterText? maxText rest else some rest
    let rest ← if flags.toNat.testBit 4 then afterText? maxText rest else some rest
    if flags.toNat.testBit 1 then afterCheck? bytes rest else some rest
  | _ => none

/-- Whether a trailer belongs to the bytes. -/
def isTrailer (trailer output : Bytes) : Bool :=
  trailer.length = 8 && littleEndian (trailer.take 4) = (checksum output).toNat
    && littleEndian (trailer.drop 4) = output.length % (1 <<< 32)

/-- How many bytes are decompressed at a time. What is decompressed is there once the next byte has
no room. -/
def windowSize : Nat :=
  32768

/-- The bytes in the windows before the last one. -/
def wholeWindows (output : Array UInt8) : Bytes :=
  output.toList.take ((output.size - 1) / windowSize * windowSize)

/-- Reads a compressed file. Data that breaks off is read as far as it goes, corrupt data up to the
window that the damage is in. -/
def decode (bytes : Bytes) : Content :=
  match body? bytes with
  | none => ⟨[], false⟩
  | some body =>
    match inflate (bitsOf body) with
    | ⟨output, .error .corrupt⟩ => ⟨wholeWindows output, false⟩
    | ⟨output, .error .truncated⟩ => ⟨output.toList, false⟩
    | ⟨output, .ok rest⟩ =>
      let trailer := (body.drop (body.length - rest.length / 8)).take 8
      ⟨output.toList, isTrailer trailer output.toList⟩

end Gzip

end AssetSeed.Archive
