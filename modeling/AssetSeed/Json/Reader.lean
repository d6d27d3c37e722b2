import AssetSeed.Json.Basic
import AssetSeed.Text.Numeral

/-!
# Reading JSON

## Main definitions

* `Json.ofText?` — the value that a text writes.
* `Json.document?` — the same for a document that has to be kept whole: everything in it must stand
  for something, and arrays and objects are nested at most 127 deep.
-/

namespace AssetSeed.Json

open Text

def isSpace (c : Char) : Bool :=
  c = ' ' || c = '\n' || c = '\t' || c = '\r'

def skipSpace (s : List Char) : List Char :=
  s.dropWhile isSpace

/-! ## Texts -/

/-- A character of a text, or the code that an escape gives. -/
inductive CodeUnit where
  | char (c : Char)
  | code (n : Nat)
deriving Repr, DecidableEq

def escape? (c : Char) : Option Char :=
  match c with
  | '"' => some '"'
  | '\\' => some '\\'
  | '/' => some '/'
  | 'b' => some '\x08'
  | 'f' => some '\x0c'
  | 'n' => some '\n'
  | 'r' => some '\r'
  | 't' => some '\t'
  | _ => none

/-- The units up to the closing quote, and what follows it. -/
def readUnits? : List Char → Option (List CodeUnit × List Char)
  | [] => none
  | '"' :: rest => some ([], rest)
  | '\\' :: 'u' :: w :: x :: y :: z :: rest =>
    if [w, x, y, z].all isHexDigit then
      (readUnits? rest).map fun (units, rest) =>
        (.code (numeralValue 16 hexValue [w, x, y, z]) :: units, rest)
    else none
  | '\\' :: c :: rest =>
    match escape? c with
    | some meant => (readUnits? rest).map fun (units, rest) => (.char meant :: units, rest)
    | none => none
  | c :: rest =>
    if c.toNat < 32 || c = '\\' then none
    else (readUnits? rest).map fun (units, rest) => (.char c :: units, rest)

def isLeading (n : Nat) : Bool :=
  0xd800 ≤ n && n ≤ 0xdbff

def isTrailing (n : Nat) : Bool :=
  0xdc00 ≤ n && n ≤ 0xdfff

/-- The characters of units in which the surrogates come in pairs. -/
def unitsText? : List CodeUnit → Option (List Char)
  | [] => some []
  | .char c :: rest => (unitsText? rest).map (c :: ·)
  | .code high :: .code low :: rest =>
    if isLeading high then
      if isTrailing low then
        (unitsText? rest).map
          (Char.ofNat ((high - 0xd800) * 1024 + (low - 0xdc00) + 0x10000) :: ·)
      else none
    else if isTrailing high then none
    else (unitsText? (.code low :: rest)).map (Char.ofNat high :: ·)
  | .code n :: rest =>
    if isLeading n || isTrailing n then none
    else (unitsText? rest).map (Char.ofNat n :: ·)

/-- A text after its opening quote: `none` in the pair for one without a meaning. -/
def readText? (s : List Char) : Option (Option String × List Char) :=
  (readUnits? s).map fun (units, rest) => ((unitsText? units).map String.ofList, rest)

/-! ## Numbers -/

structure Numeral where
  negative : Bool
  whole : List Char
  fraction : List Char
  exponent : Int
  /-- Whether it has neither fraction nor exponent. -/
  isWhole : Bool
  literal : List Char

def readDigits? (s : List Char) : Option (List Char × List Char) :=
  let digits := s.takeWhile isDigit
  if digits.isEmpty then none else some (digits, s.dropWhile isDigit)

def readWhole? : List Char → Option (List Char × List Char)
  | '0' :: rest =>
    match rest with
    | c :: _ => if isDigit c then none else some (['0'], rest)
    | [] => some (['0'], [])
  | s => readDigits? s

def readFraction? : List Char → Option (Option (List Char) × List Char)
  | '.' :: rest => (readDigits? rest).map fun (digits, rest) => (some digits, rest)
  | s => some (none, s)

def readExponent? : List Char → Option (Option Int × List Char)
  | [] => some (none, [])
  | c :: rest =>
    if c = 'e' || c = 'E' then
      let (sign, rest) : Int × List Char := match rest with
        | '-' :: rest => (-1, rest)
        | '+' :: rest => (1, rest)
        | _ => (1, rest)
      (readDigits? rest).map fun (digits, rest) => (some (sign * decimalValue digits), rest)
    else some (none, c :: rest)

def readNumeral? (s : List Char) : Option (Numeral × List Char) := do
  let negative := s.head? = some '-'
  let (whole, rest) ← readWhole? (if negative then s.drop 1 else s)
  let (fraction?, rest) ← readFraction? rest
  let (exponent?, rest) ← readExponent? rest
  return ({
    negative, whole
    fraction := fraction?.getD []
    exponent := exponent?.getD 0
    isWhole := fraction?.isNone && exponent?.isNone
    literal := s.take (s.length - rest.length)
  }, rest)

/-- The greatest number that the digits of a numeral are gathered in. -/
def maxGathered : Nat :=
  (1 <<< 64) - 1

/-- Adds digits to a number as long as it does not get too large, and gives those left over. -/
def gatherDigits : Nat → List Char → Nat × List Char
  | n, [] => (n, [])
  | n, c :: rest =>
    let next := n * 10 + digitValue c
    if next ≤ maxGathered then gatherDigits next rest else (n, c :: rest)

/-- The binary digits that a double has room for. -/
def doubleDigits : Nat :=
  53

/-- A number with the binary digits rounded away that a double has no room for, a half to the even
neighbour. -/
def nearestDouble (n : Nat) : Nat :=
  let unit := 1 <<< (n.log2 + 1 - doubleDigits)
  let kept := n / unit
  let up := unit < 2 * (n % unit) || (unit = 2 * (n % unit) && kept % 2 = 1)
  (kept + up.toNat) * unit

/-- From here on numbers are nearer to the next power of two than to the largest double. -/
def doubleLimit : Nat :=
  (1 <<< 1024) - (1 <<< 970)

/-- The greatest power of ten that is a double. -/
def maxPower : Nat :=
  308

/-- Whether the double of the numeral is finite. It is the product of two doubles, one for the digits
that are gathered and one for the power of ten that is left; further digits do not count. -/
def Numeral.isFinite (n : Numeral) : Bool :=
  let (gathered, wholeLeft) := gatherDigits 0 n.whole
  let (gathered, fractionLeft) := gatherDigits gathered n.fraction
  let power : Int := n.exponent + wholeLeft.length - (n.fraction.length - fractionLeft.length)
  if power ≤ 0 || gathered = 0 then true
  else if maxPower < power then false
  else nearestDouble gathered * nearestDouble (Nat.pow 10 power.toNat) < doubleLimit

def Numeral.toJson (n : Numeral) : Json :=
  if !n.isFinite then .unrepresentable
  else if n.isWhole && !(n.negative && n.whole = ['0']) then
    .integer (if n.negative then -(decimalValue n.whole : Int) else decimalValue n.whole)
  else .real (String.ofList n.literal)

/-! ## Values -/

def readWord? (word : String) (value : Json) (s : List Char) : Option (Json × List Char) :=
  if word.toList.isPrefixOf s then some (value, s.drop word.length) else none

mutual

def readValue? : (fuel : Nat) → List Char → Option (Json × List Char)
  | 0, _ => none
  | fuel + 1, s =>
    match skipSpace s with
    | [] => none
    | '[' :: rest =>
      match skipSpace rest with
      | ']' :: rest => some (.array [], rest)
      | rest => (readItems? fuel rest).map fun (items, rest) => (.array items, rest)
    | '\x7b' :: rest =>
      match skipSpace rest with
      | '\x7d' :: rest => some (.object [], rest)
      | rest =>
        (readFields? fuel rest).map fun (fields?, rest) =>
          (fields?.elim .unrepresentable .object, rest)
    | '"' :: rest =>
      (readText? rest).map fun (text?, rest) => (text?.elim .unrepresentable .text, rest)
    | 'n' :: rest => readWord? "null" .null ('n' :: rest)
    | 't' :: rest => readWord? "true" (.bool true) ('t' :: rest)
    | 'f' :: rest => readWord? "false" (.bool false) ('f' :: rest)
    | rest => (readNumeral? rest).map fun (n, rest) => (n.toJson, rest)

/-- The items of an array that has at least one, up to its closing bracket. -/
def readItems? : (fuel : Nat) → List Char → Option (List Json × List Char)
  | 0, _ => none
  | fuel + 1, s =>
    match readValue? fuel s with
    | none => none
    | some (item, rest) =>
      match skipSpace rest with
      | ']' :: rest => some ([item], rest)
      | ',' :: rest => (readItems? fuel rest).map fun (items, rest) => (item :: items, rest)
      | _ => none

/-- The fields of an object that has at least one, up to its closing brace; no list in the pair if a
key has no meaning. -/
def readFields? : (fuel : Nat) → List Char → Option (Option (List (String × Json)) × List Char)
  | 0, _ => none
  | fuel + 1, s =>
    match skipSpace s with
    | '"' :: rest =>
      match readText? rest with
      | none => none
      | some (key?, rest) =>
        match skipSpace rest with
        | ':' :: rest =>
          match readValue? fuel rest with
          | none => none
          | some (value, rest) =>
            match skipSpace rest with
            | '\x7d' :: rest => some (key?.map fun key => [(key, value)], rest)
            | ',' :: rest =>
              (readFields? fuel rest).map fun (fields?, rest) =>
                (key?.bind fun key => fields?.map ((key, value) :: ·), rest)
            | _ => none
        | _ => none
    | _ => none

end

/-- The value that the whole text writes, white space around it apart. -/
def ofText? (s : String) : Option Json :=
  match readValue? (2 * s.length + 2) s.toList with
  | some (value, rest) => if (skipSpace rest).isEmpty then some value else none
  | none => none

def document? (s : String) : Option Json :=
  (ofText? s).filter fun value => value.isFaithful && value.depth ≤ 127

end AssetSeed.Json
