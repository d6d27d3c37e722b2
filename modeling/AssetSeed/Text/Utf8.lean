/-!
# UTF-8

Texts as bytes and back, strictly or with a replacement character for what is not a text.

## Main definitions

* `utf8Encode` — the bytes of a text.
* `utf8Decode?` — the text of bytes, if they are one.
* `utf8Lossy` — a text for any bytes: each maximal broken piece becomes `�`.
-/

namespace AssetSeed

abbrev Bytes := List UInt8

namespace Text

/-- The outcome of reading one character: the character, or the number of bytes that are the
beginning of one and are replaced together. -/
inductive Scalar where
  | valid (c : Char) (width : Nat)
  | broken (width : Nat)
deriving Repr, DecidableEq

def isContinuation (b : UInt8) : Bool :=
  0x80 ≤ b && b ≤ 0xbf

/-- The lowest and highest second byte that may follow the given first byte. -/
def secondByteBounds (b : UInt8) : UInt8 × UInt8 :=
  if b = 0xe0 then (0xa0, 0xbf)
  else if b = 0xed then (0x80, 0x9f)
  else if b = 0xf0 then (0x90, 0xbf)
  else if b = 0xf4 then (0x80, 0x8f)
  else (0x80, 0xbf)

def sixBits (b : UInt8) : Nat :=
  b.toNat % 64

/-- Reads the character that starts with `b` and goes on in `rest`. -/
def readScalar (b : UInt8) (rest : Bytes) : Scalar :=
  let second? : Option UInt8 := rest.head?.filter fun x =>
    (secondByteBounds b).1 ≤ x && x ≤ (secondByteBounds b).2
  let third? : Option UInt8 := rest[1]?.filter isContinuation
  let fourth? : Option UInt8 := rest[2]?.filter isContinuation
  if b < 0x80 then
    .valid (Char.ofNat b.toNat) 1
  else if 0xc2 ≤ b && b ≤ 0xdf then
    match second? with
    | some x => .valid (Char.ofNat ((b.toNat % 32) * 64 + sixBits x)) 2
    | none => .broken 1
  else if 0xe0 ≤ b && b ≤ 0xef then
    match second?, third? with
    | none, _ => .broken 1
    | some _, none => .broken 2
    | some x, some y => .valid (Char.ofNat ((b.toNat % 16) * 4096 + sixBits x * 64 + sixBits y)) 3
  else if 0xf0 ≤ b && b ≤ 0xf4 then
    match second?, third?, fourth? with
    | none, _, _ => .broken 1
    | some _, none, _ => .broken 2
    | some _, some _, none => .broken 3
    | some x, some y, some z =>
      .valid (Char.ofNat
        ((b.toNat % 8) * 262144 + sixBits x * 4096 + sixBits y * 64 + sixBits z)) 4
  else
    .broken 1

/-- Reads bytes as characters after passing over `skip` bytes of a character already read. -/
def scalars : Nat → Bytes → List (Option Char)
  | _, [] => []
  | skip + 1, _ :: rest => scalars skip rest
  | 0, b :: rest =>
    match readScalar b rest with
    | .valid c width => some c :: scalars (width - 1) rest
    | .broken width => none :: scalars (width - 1) rest

def utf8Decode? (bytes : Bytes) : Option String :=
  ((scalars 0 bytes).mapM id).map String.ofList

def utf8Lossy (bytes : Bytes) : String :=
  String.ofList ((scalars 0 bytes).map fun c? => c?.getD '\ufffd')

def utf8Encode (s : String) : Bytes :=
  s.toUTF8.toList

end Text

end AssetSeed
