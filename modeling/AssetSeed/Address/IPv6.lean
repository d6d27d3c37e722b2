import AssetSeed.Address.IPv4

/-!
# IPv6 addresses

Eight groups of 16 bits, written in hexadecimal with colons between them. The longest run of two
or more zero groups, the first of several, is written `::`, and an address that carries an IPv4
address is written with that address in decimal at its end. When read, `::` stands for one or more
zero groups, and the last two groups may be an IPv4 address in any address.

## Main definitions

* `IPv6.read?` — an address at the start of a text, and what follows it.
* `IPv6.text` — the written form.
* `IPv6.toNat` — the address as one number of 128 bits.
-/

namespace AssetSeed

structure IPv6 where
  groups : List UInt16
  length_eq : groups.length = 8 := by decide
deriving Repr, DecidableEq

namespace IPv6

open Text

/-- Up to four hexadecimal digits, of either case. -/
def readGroup? (s : List Char) : Option (UInt16 × List Char) :=
  let digits := s.takeWhile isHexDigit
  let rest := s.dropWhile isHexDigit
  if digits.isEmpty || digits.length > 4 then none
  else some (UInt16.ofNat (numeralValue 16 hexValue digits), rest)

/-- Reads with `read` after a colon, or at once at the first place. -/
def readAfterColon? {α : Type} (first : Bool) (read : List Char → Option (α × List Char))
    (s : List Char) : Option (α × List Char) :=
  if first then read s
  else
    match s with
    | ':' :: rest => read rest
    | _ => none

def upperHalf (x : IPv4) : UInt16 :=
  UInt16.ofNat (x.a.toNat * 256 + x.b.toNat)

def lowerHalf (x : IPv4) : UInt16 :=
  UInt16.ofNat (x.c.toNat * 256 + x.d.toNat)

/-- As many groups as can be read, at most `limit` of them. -/
structure Groups where
  groups : List UInt16
  /-- Whether the last two groups were written as an IPv4 address. -/
  endsInIPv4 : Bool
  rest : List Char

def readGroups : (limit : Nat) → (first : Bool) → List Char → Groups
  | 0, _, s => ⟨[], false, s⟩
  | limit + 1, first, s =>
    let embedded? := if limit = 0 then none else readAfterColon? first IPv4.read? s
    match embedded? with
    | some (v4, rest) => ⟨[upperHalf v4, lowerHalf v4], true, rest⟩
    | none =>
      match readAfterColon? first readGroup? s with
      | some (group, rest) =>
        let more := readGroups limit false rest
        ⟨group :: more.groups, more.endsInIPv4, more.rest⟩
      | none => ⟨[], false, s⟩

/-- Eight groups, if `groups` holds eight. -/
def ofGroups? (groups : List UInt16) : Option IPv6 :=
  if h : groups.length = 8 then some ⟨groups, h⟩ else none

def read? (s : List Char) : Option (IPv6 × List Char) :=
  let head := readGroups 8 true s
  if head.groups.length = 8 then
    (ofGroups? head.groups).map (·, head.rest)
  else if head.endsInIPv4 then
    none
  else
    match head.rest with
    | ':' :: ':' :: rest =>
      let tail := readGroups (7 - head.groups.length) true rest
      let zeros := List.replicate (8 - head.groups.length - tail.groups.length) 0
      (ofGroups? (head.groups ++ zeros ++ tail.groups)).map (·, tail.rest)
    | _ => none

/-- The address that the whole text writes. -/
def ofText? (s : List Char) : Option IPv6 :=
  match read? s with
  | some (address, []) => some address
  | _ => none

def groupText (group : UInt16) : List Char :=
  Nat.toDigits 16 group.toNat

def groupsText (groups : List UInt16) : List Char :=
  joinWith [':'] (groups.map groupText)

/-- The number of zero groups at the start. -/
def zeroRun (groups : List UInt16) : Nat :=
  (groups.takeWhile (· == 0)).length

/-- Where the first of the longest runs of zero groups starts, and its length. -/
def longestZeroRun : List UInt16 → Nat × Nat
  | [] => (0, 0)
  | group :: rest =>
    let here := zeroRun (group :: rest)
    let later := longestZeroRun rest
    if later.2 > here then (later.1 + 1, later.2) else (0, here)

/-- The IPv4 address that the address carries behind five zero groups and a group of ones. -/
def embedded? (x : IPv6) : Option IPv4 :=
  match x.groups with
  | [0, 0, 0, 0, 0, 0xffff, high, low] =>
    some ⟨UInt8.ofNat (high.toNat / 256), UInt8.ofNat (high.toNat % 256),
      UInt8.ofNat (low.toNat / 256), UInt8.ofNat (low.toNat % 256)⟩
  | _ => none

def text (x : IPv6) : List Char :=
  match x.embedded? with
  | some v4 => "::ffff:".toList ++ v4.text
  | none =>
    let (start, length) := longestZeroRun x.groups
    if length > 1 then
      groupsText (x.groups.take start) ++ [':', ':'] ++ groupsText (x.groups.drop (start + length))
    else
      groupsText x.groups

def toNat (x : IPv6) : Nat :=
  x.groups.foldl (fun n group => n * 65536 + group.toNat) 0

end IPv6

end AssetSeed
