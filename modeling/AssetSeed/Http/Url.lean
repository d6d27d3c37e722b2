import AssetSeed.Address.IPv6
import AssetSeed.HostName.Label
import AssetSeed.Text.Utf8

/-!
# Addresses of resources

Which texts a request can be sent to. Only what tells a usable text from one that is not is looked
at: the scheme, the host and the port.

## Main definitions

* `Url.isUsable` — whether a text names a host that can be asked over HTTP.
-/

namespace AssetSeed.Url

open HostName Text

def isControlOrSpace (c : Char) : Bool :=
  c.toNat ≤ 32

/-- The text without what surrounds it, and without the tabs and line ends in it. -/
def cleaned (s : List Char) : List Char :=
  let inner := ((s.dropWhile isControlOrSpace).reverse.dropWhile isControlOrSpace).reverse
  inner.filter fun c => !(c = '\t' || c = '\n' || c = '\r')

/-- What follows the scheme, if that is one of HTTP. -/
def afterScheme? (s : List Char) : Option (List Char) := do
  let (scheme, rest) ← cut? ':' s
  if ["http".toList, "https".toList].contains (scheme.map Char.toLower) then some rest else none

def isSlash (c : Char) : Bool :=
  c = '/' || c = '\\'

/-- Host and port with whatever stands before them: what is between the slashes. -/
def authority (s : List Char) : List Char :=
  (s.dropWhile isSlash).takeWhile fun c => !(isSlash c || c = '?' || c = '#')

/-- What stands behind the last of the characters `sep`, or everything. -/
def afterLast (sep : Char) (s : List Char) : List Char :=
  (s.reverse.takeWhile (· ≠ sep)).reverse

/-- The bytes of a text in which a percent sign and two hexadecimal digits stand for one. -/
def bytes : List Char → Bytes
  | '%' :: x :: y :: rest =>
    if isHexDigit x && isHexDigit y then
      UInt8.ofNat (hexValue x * 16 + hexValue y) :: bytes rest
    else
      utf8Encode "%" ++ bytes (x :: y :: rest)
  | c :: rest => utf8Encode (String.singleton c) ++ bytes rest
  | [] => []

/-- A part of an IPv4 address in decimal, octal or hexadecimal. -/
def numberPart? (s : List Char) : Option Nat :=
  match s with
  | '0' :: 'x' :: digits | '0' :: 'X' :: digits =>
    if digits.all isHexDigit then some (numeralValue 16 hexValue digits) else none
  | '0' :: d :: digits =>
    if (d :: digits).all fun c => '0' ≤ c && c ≤ '7' then
      some (numeralValue 8 digitValue (d :: digits))
    else none
  | digits => if !digits.isEmpty && digits.all isDigit then some (decimalValue digits) else none

/-- The labels without an empty one behind a point at the end. -/
def significant (labels : List Label) : List Label :=
  if labels.getLast? = some [] && 1 < labels.length then labels.dropLast else labels

/-- Whether labels are to be read as a number because the last one of them is one. -/
def endInNumber (labels : List Label) : Bool :=
  match (significant labels).getLast? with
  | some last => (!last.isEmpty && last.all isDigit) || (numberPart? last).isSome
  | none => false

/-- At most four parts, of which the last one fills the bytes that are left. -/
def isNumeric (labels : List Label) : Bool :=
  match (significant labels).mapM numberPart? with
  | none => false
  | some parts =>
    parts.length ≤ 4 && parts.dropLast.all (· ≤ 255)
      && parts.getLast?.all fun last => last < 1 <<< (8 * (5 - parts.length))

def isHost (host : List Char) : Bool :=
  match host with
  | '[' :: rest => rest.getLast? = some ']' && (IPv6.ofText? rest.dropLast).isSome
  | _ =>
    match (utf8Decode? (bytes host)).bind fun name => labels? name.toList with
    | none => false
    | some labels => labels ≠ [[]] && (!endInNumber labels || isNumeric labels)

/-- The text before the first colon outside of brackets. -/
def untilPort : List Char → List Char :=
  go false
where
  go (inside : Bool) : List Char → List Char
    | [] => []
    | c :: rest =>
      if c = ':' && !inside then [] else c :: go (c = '[' || (inside && c ≠ ']')) rest

/-- Host and port. -/
def hostAndPort (s : List Char) : List Char × List Char :=
  let host := untilPort s
  (host, s.drop (host.length + 1))

def isPort (port : List Char) : Bool :=
  port.all isDigit && decimalValue port ≤ 65535

def isUsable (url : String) : Bool :=
  match afterScheme? (cleaned url.toList) with
  | none => false
  | some rest =>
    let (host, port) := hostAndPort (afterLast '@' (authority rest))
    isHost host && isPort port

end AssetSeed.Url
