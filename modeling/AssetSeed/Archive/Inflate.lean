import AssetSeed.Archive.PrefixCode

/-!
# Decompression

Compressed data is a row of blocks. A block holds bytes as they are, or symbols of a prefix code:
bytes, and pairs of a length and a distance that repeat what has been decompressed.

## Main definitions

* `Inflated` — what decompression came to.
* `inflate` — decompresses bits.
-/

namespace AssetSeed.Archive

/-- What has been decompressed, and the bits behind the data or why they cannot be told. -/
structure Inflated where
  output : Array UInt8
  rest : Except Damage (List Bool)

namespace Inflate

/-- Least lengths of repetitions, and how many bits are added to them. -/
def lengths : List (Nat × Nat) := [
  (3, 0), (4, 0), (5, 0), (6, 0), (7, 0), (8, 0), (9, 0), (10, 0), (11, 1), (13, 1), (15, 1),
  (17, 1), (19, 2), (23, 2), (27, 2), (31, 2), (35, 3), (43, 3), (51, 3), (59, 3), (67, 4),
  (83, 4), (99, 4), (115, 4), (131, 5), (163, 5), (195, 5), (227, 5), (258, 0)]

/-- Least distances of repetitions, and how many bits are added to them. -/
def distances : List (Nat × Nat) := [
  (1, 0), (2, 0), (3, 0), (4, 0), (5, 1), (7, 1), (9, 2), (13, 2), (17, 3), (25, 3), (33, 4),
  (49, 4), (65, 5), (97, 5), (129, 6), (193, 6), (257, 7), (385, 7), (513, 8), (769, 8),
  (1025, 9), (1537, 9), (2049, 10), (3073, 10), (4097, 11), (6145, 11), (8193, 12), (12289, 12),
  (16385, 13), (24577, 13)]

/-- The number that a symbol stands for in a table, with its bits added. -/
def ranged (table : List (Nat × Nat)) (symbol : Nat) : BitReader Nat := do
  match table[symbol]? with
  | none => throw .corrupt
  | some (least, width) => return least + (← BitReader.number width)

/-- The byte that stands `distance` bytes back. What would stand before the start is zero. -/
def byteBack (distance : Nat) (output : Array UInt8) : UInt8 :=
  if output.size < distance then 0 else output[output.size - distance]?.getD 0

/-- Repeats `count` bytes from `distance` bytes back. -/
def repeatBack (distance : Nat) : (count : Nat) → Array UInt8 → Array UInt8
  | 0, output => output
  | count + 1, output => repeatBack distance count (output.push (byteBack distance output))

/-- The codes of a block: one for bytes and lengths, one for distances. -/
structure Codes where
  literal : PrefixCode
  distance : PrefixCode

/-- What a symbol of a block asks for. -/
inductive Item where
  | byte (b : UInt8)
  | back (length distance : Nat)
  | stop

def item (codes : Codes) : BitReader Item := do
  let symbol ← codes.literal.symbol
  if symbol < 256 then
    return .byte (UInt8.ofNat symbol)
  else if symbol = 256 then
    return .stop
  else
    let length ← ranged lengths (symbol - 257)
    let distance ← ranged distances (← codes.distance.symbol)
    return .back length distance

/-- Decompresses items up to the end of the block, at most `fuel` of them. -/
def items (codes : Codes) : (fuel : Nat) → Array UInt8 → List Bool → Inflated
  | 0, output, _ => ⟨output, .error .truncated⟩
  | fuel + 1, output, bits =>
    match item codes bits with
    | .error damage => ⟨output, .error damage⟩
    | .ok (.stop, rest) => ⟨output, .ok rest⟩
    | .ok (.byte b, rest) => items codes fuel (output.push b) rest
    | .ok (.back length distance, rest) =>
      items codes fuel (repeatBack distance length output) rest

/-- Takes over `count` bytes as they are. -/
def plain : (count : Nat) → Array UInt8 → List Bool → Inflated
  | 0, output, bits => ⟨output, .ok bits⟩
  | count + 1, output, bits =>
    match BitReader.number 8 bits with
    | .error damage => ⟨output, .error damage⟩
    | .ok (b, rest) => plain count (output.push (UInt8.ofNat b)) rest

def codesOf (literal distance : List Nat) : BitReader Codes := do
  match PrefixCode.ofLengths? literal, PrefixCode.ofLengths? distance with
  | some literal, some distance => return { literal, distance }
  | _, _ => throw .corrupt

/-- The codes of blocks that do not bring their own. -/
def fixedCodes : BitReader Codes :=
  codesOf (List.replicate 144 8 ++ List.replicate 112 9 ++ List.replicate 24 7
    ++ List.replicate 8 8) (List.replicate 32 5)

/-- The order in which the lengths of the code for lengths are written. -/
def lengthOrder : List Nat :=
  [16, 17, 18, 0, 8, 7, 9, 6, 10, 5, 11, 4, 12, 3, 13, 2, 14, 1, 15]

/-- Reads `count` lengths, behind those read already. A symbol from 16 on stands for several. -/
def codeLengths (code : PrefixCode) (count : Nat) : (fuel : Nat) → List Nat → BitReader (List Nat)
  | 0, _ => throw .corrupt
  | fuel + 1, found =>
    if found.length = count then return found
    else if count < found.length then throw .corrupt
    else do
      let symbol ← code.symbol
      if symbol < 16 then codeLengths code count fuel (found ++ [symbol])
      else if symbol = 16 then
        match found.getLast? with
        | none => throw .corrupt
        | some last =>
          codeLengths code count fuel (found ++ List.replicate (3 + (← BitReader.number 2)) last)
      else if symbol = 17 then
        codeLengths code count fuel (found ++ List.replicate (3 + (← BitReader.number 3)) 0)
      else
        codeLengths code count fuel (found ++ List.replicate (11 + (← BitReader.number 7)) 0)

/-- `count` numbers of three bits. -/
def triples : (count : Nat) → BitReader (List Nat)
  | 0 => pure []
  | count + 1 => do return (← BitReader.number 3) :: (← triples count)

/-- The codes that stand at the start of a block. -/
def ownCodes : BitReader Codes := do
  let literals := 257 + (← BitReader.number 5)
  let distances := 1 + (← BitReader.number 5)
  let known := 4 + (← BitReader.number 4)
  if 286 < literals || 30 < distances then throw .corrupt
  let pairs := lengthOrder.zip (← triples known)
  let own := (List.range 19).map fun i => (pairs.lookup i).getD 0
  if !PrefixCode.isComplete own then throw .corrupt
  let total := literals + distances
  let found ← codeLengths (PrefixCode.ofLengths own) total (total + 1) []
  codesOf (found.take literals) (found.drop literals)

/-- The rest of a block whose kind has been read. -/
def block (kind : Nat) (output : Array UInt8) (bits : List Bool) : Inflated :=
  let coded (codes : BitReader Codes) : Inflated :=
    match codes bits with
    | .error damage => ⟨output, .error damage⟩
    | .ok (codes, rest) => items codes (rest.length + 1) output rest
  match kind with
  | 0 =>
    let header : BitReader (Nat × Nat) := do
      BitReader.align
      return (← BitReader.number 16, ← BitReader.number 16)
    match header bits with
    | .error damage => ⟨output, .error damage⟩
    | .ok ((count, check), rest) =>
      if count + check = 65535 then plain count output rest else ⟨output, .error .corrupt⟩
  | 1 => coded fixedCodes
  | 2 => coded ownCodes
  | _ => ⟨output, .error .corrupt⟩

/-- Decompresses blocks up to the last one, at most `fuel` of them. -/
def blocks : (fuel : Nat) → Array UInt8 → List Bool → Inflated
  | 0, output, _ => ⟨output, .error .truncated⟩
  | fuel + 1, output, bits =>
    let header : BitReader (Bool × Nat) := do return (← BitReader.bit, ← BitReader.number 2)
    match header bits with
    | .error damage => ⟨output, .error damage⟩
    | .ok ((last, kind), rest) =>
      match block kind output rest with
      | ⟨output, .error damage⟩ => ⟨output, .error damage⟩
      | ⟨output, .ok rest⟩ => if last then ⟨output, .ok rest⟩ else blocks fuel output rest

end Inflate

/-- Decompresses bits. Each block takes some of them, so that there are not more blocks than
bits. -/
def inflate (bits : List Bool) : Inflated :=
  Inflate.blocks (bits.length + 1) #[] bits

end AssetSeed.Archive
