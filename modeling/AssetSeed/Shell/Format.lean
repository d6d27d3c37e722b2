import AssetSeed.Shell.Arithmetic
import AssetSeed.Text.Utf8

/-!
# Formatted output

## Main definitions

* `escaped` — a text whose escapes are read.
* `formatted` — a format with its arguments put in.
-/

namespace AssetSeed.Shell

open Text

def isOctalDigit (c : Char) : Bool :=
  '0' ≤ c && c ≤ '7'

def octalValue (digits : List Char) : Nat :=
  numeralValue 8 digitValue digits

def charBytes (c : Char) : Bytes :=
  utf8Encode (String.ofList [c])

/-- What a letter after a backslash stands for. -/
def escapeByte? (c : Char) : Option UInt8 :=
  match c with
  | 'n' => some 10
  | 't' => some 9
  | 'r' => some 13
  | 'a' => some 7
  | 'b' => some 8
  | 'f' => some 12
  | 'v' => some 11
  | '\\' => some 92
  | _ => none

/-- The byte of up to three octal digits, and what follows them. -/
def octalByte (s : List Char) : UInt8 × List Char :=
  let digits := (s.take 3).takeWhile isOctalDigit
  (UInt8.ofNat (octalValue digits), s.drop digits.length)

/-- Which escapes are read. -/
structure Escapes where
  /-- Whether an octal number may start with a zero of its own. -/
  inArgument : Bool
  /-- Whether it must. -/
  needsZero : Bool := false
  /-- Numbers in hexadecimal and the escape character can be given, too. -/
  isRich : Bool
deriving Repr, DecidableEq

/-- A byte, or a character of ASCII, in at most `count` hexadecimal digits after a letter. Another
character is given by its number. -/
def readHex (letter : Char) (count : Nat) (s : List Char) : Bytes × List Char :=
  let digits := (s.take count).takeWhile isHexDigit
  let n := numeralValue 16 hexValue digits
  let shown := (Nat.toDigits 16 n).map Char.toUpper
  if digits.isEmpty then (92 :: charBytes letter, s)
  else if letter = 'x' || n < 128 then ([UInt8.ofNat n], s.drop digits.length)
  else (92 :: utf8Encode (String.ofList
    (letter :: List.replicate (count - shown.length) '0' ++ shown)), s.drop digits.length)

/-- Reads the escape after a backslash: its bytes, and what follows it. -/
def readEscape (escapes : Escapes) (s : List Char) : Bytes × List Char :=
  match s with
  | [] => ([92], [])
  | c :: rest =>
    if isOctalDigit c && (!escapes.needsZero || c = '0') then
      let (byte, rest) := octalByte (if escapes.inArgument && c = '0' then rest else c :: rest)
      ([byte], rest)
    else
      match escapeByte? c, escapes.isRich with
      | some byte, _ => ([byte], rest)
      | none, true =>
        if c = 'x' then readHex c 2 rest
        else if c = 'u' then readHex c 4 rest
        else if c = 'U' then readHex c 8 rest
        else if c = 'e' || c = 'E' then ([27], rest)
        else if !escapes.inArgument && c = '"' then ([34], rest)
        else (92 :: charBytes c, rest)
      | none, false => if c = 'e' then ([27], rest) else (92 :: charBytes c, rest)

/-- The bytes of an argument whose escapes are read, and whether all output is to end there.
`fuel` bounds the length. -/
def escapedFrom (isRich needsZero : Bool) : (fuel : Nat) → List Char → Bytes × Bool
  | 0, _ => ([], false)
  | _, [] => ([], false)
  | _, '\\' :: 'c' :: _ => ([], true)
  | fuel + 1, '\\' :: rest =>
    let (bytes, rest) := readEscape { inArgument := true, isRich, needsZero } rest
    let (more, ended) := escapedFrom isRich needsZero fuel rest
    (bytes ++ more, ended)
  | fuel + 1, c :: rest =>
    let (more, ended) := escapedFrom isRich needsZero fuel rest
    (charBytes c ++ more, ended)

def escaped (isRich needsZero : Bool) (s : List Char) : Bytes × Bool :=
  escapedFrom isRich needsZero s.length s

/-- The bytes of a text in which all escapes are read; `fuel` bounds its length. -/
def unescaped : (fuel : Nat) → List Char → Bytes
  | 0, _ => []
  | _, [] => []
  | fuel + 1, '\\' :: '\'' :: rest => 39 :: unescaped fuel rest
  | fuel + 1, '\\' :: rest =>
    let (bytes, rest) := readEscape { inArgument := false, isRich := true } rest
    bytes ++ unescaped fuel rest
  | fuel + 1, c :: rest => charBytes c ++ unescaped fuel rest

/-- The number that an argument writes down, or else zero. -/
def integerOf (s : List Char) : Int :=
  match s with
  | '-' :: digits => -Int.ofNat (decimalValue (digits.takeWhile isDigit))
  | '+' :: digits => Int.ofNat (decimalValue (digits.takeWhile isDigit))
  | digits => Int.ofNat (decimalValue (digits.takeWhile isDigit))

/-- The number that an argument of a format writes down, in one of the ways of expressions or as a
character behind a quote, and whether it does so. -/
def numberOf (s : List Char) : Int × Bool :=
  match s with
  | [] => (0, true)
  | quote :: c :: _ =>
    if quote = '\'' || quote = '"' then (c.toNat, true)
    else
      let (sign, digits) : Int × List Char := match s with
        | '-' :: digits => (-1, digits)
        | '+' :: digits => (1, digits)
        | digits => (1, digits)
      match Expression.numeral? digits with
      | some n => (sign * n, true)
      | none => (integerOf s, false)
  | [c] => if isDigit c then (digitValue c, true) else (0, false)

/-- How a value is brought to its place. -/
structure Conversion where
  flags : List Char
  width : Nat
  precision : Option Nat
  letter : Char
deriving Repr, DecidableEq

namespace Conversion

/-- A text at its place. -/
def padded (conversion : Conversion) (fillsWithZeros : Bool) (sign s : Bytes) : Bytes :=
  let gap := conversion.width - (sign.length + s.length)
  if conversion.flags.contains '-' then sign ++ s ++ List.replicate gap 32
  else if fillsWithZeros && conversion.flags.contains '0' then
    sign ++ List.replicate gap 48 ++ s
  else List.replicate gap 32 ++ sign ++ s

/-- What stands before the digits of a number. -/
def sign (conversion : Conversion) (n : Int) : List Char :=
  if n < 0 then ['-']
  else if conversion.flags.contains '+' then ['+']
  else if conversion.flags.contains ' ' then [' ']
  else []

/-- A whole number at its place. -/
def ofInteger (conversion : Conversion) (n : Int) : Bytes :=
  let unsigned := (BitVec.ofInt 64 n).toNat
  let marked := conversion.flags.contains '#' && n ≠ 0
  let (sign, digits) := match conversion.letter with
    | 'x' => (if marked then ['0', 'x'] else [], Nat.toDigits 16 unsigned)
    | 'X' => (if marked then ['0', 'X'] else [], (Nat.toDigits 16 unsigned).map Char.toUpper)
    | 'o' => (if marked then ['0'] else [], Nat.toDigits 8 unsigned)
    | 'u' => ([], Nat.toDigits 10 unsigned)
    | _ => (conversion.sign n, Nat.toDigits 10 n.natAbs)
  let digits := match conversion.precision with
    | some count => List.replicate (count - digits.length) '0' ++ digits
    | none => digits
  conversion.padded conversion.precision.isNone (sign.flatMap charBytes) (digits.flatMap charBytes)

/-- What a conversion makes of an argument, and whether the argument is of its kind. -/
def apply (conversion : Conversion) (argument : List Char) : Option (Bytes × Bool) :=
  let bytes := utf8Encode (String.ofList argument)
  match conversion.letter with
  | 's' => some (conversion.padded false []
      (bytes.take (conversion.precision.getD bytes.length)), true)
  | 'c' => some (conversion.padded false [] (bytes.take 1), true)
  | 'd' | 'i' | 'u' | 'x' | 'X' | 'o' =>
    let (n, isNumber) := numberOf argument
    some (conversion.ofInteger n, isNumber)
  | _ => none

end Conversion

/-- What is left of a format and its arguments, and the status so far. -/
structure Formatting where
  bytes : Bytes
  arguments : List (List Char)
  /-- Whether nothing follows. -/
  ended : Bool
  status : Nat

/-- The formatting with bytes before it. -/
def Formatting.after (bytes : Bytes) (status : Nat) (rest : Formatting) : Formatting :=
  { rest with bytes := bytes ++ rest.bytes, status := max status rest.status }

/-- A number in a conversion, which may be one of the arguments. -/
def readNumber (format : List Char) (arguments : List (List Char)) :
    Option Int × List Char × List (List Char) :=
  match format with
  | '*' :: rest => (some (integerOf (arguments.headD [])), rest, arguments.tail)
  | s =>
    let digits := s.takeWhile isDigit
    (if digits.isEmpty then none else some (decimalValue digits), s.drop digits.length, arguments)

/-- The conversion after a percent sign. -/
def readConversion (format : List Char) (arguments : List (List Char)) :
    Option Conversion × List Char × List (List Char) :=
  let flags := format.takeWhile fun c => ['-', '0', '+', ' ', '#'].contains c
  let (width, rest, arguments) := readNumber (format.drop flags.length) arguments
  let width := width.getD 0
  let flags := if width < 0 then '-' :: flags else flags
  let (precision, rest, arguments) := match rest with
    | '.' :: rest =>
      let (n, rest, arguments) := readNumber rest arguments
      (some (n.getD 0).toNat, rest, arguments)
    | rest => (none, rest, arguments)
  match rest.dropWhile fun c => ['l', 'h', 'j', 'z', 't', 'L'].contains c with
  | letter :: rest => (some { flags, width := width.natAbs, precision, letter }, rest, arguments)
  | [] => (none, [], arguments)

/-- One pass over a format; `fuel` bounds its length. -/
def formatOnce (isRich : Bool) : (fuel : Nat) → (format : List Char) →
    (arguments : List (List Char)) → Formatting
  | 0, _, arguments => ⟨[], arguments, false, 0⟩
  | _, [], arguments => ⟨[], arguments, false, 0⟩
  | fuel + 1, '\\' :: rest, arguments =>
    let (bytes, rest) := readEscape { inArgument := false, isRich } rest
    (formatOnce isRich fuel rest arguments).after bytes 0
  | fuel + 1, '%' :: '%' :: rest, arguments =>
    (formatOnce isRich fuel rest arguments).after [37] 0
  | fuel + 1, '%' :: rest, arguments =>
    let broken : Formatting := ⟨[], [], true, if isRich then 1 else 2⟩
    match readConversion rest arguments with
    | (none, _, _) => broken
    | (some conversion, rest, arguments) =>
      let argument := arguments.headD []
      if conversion.letter = 'b' then
        let (bytes, ended) := escaped isRich false argument
        if ended then ⟨bytes, [], true, 0⟩
        else (formatOnce isRich fuel rest arguments.tail).after bytes 0
      else
        match conversion.apply argument with
        | none => broken
        | some (bytes, isOfKind) =>
          (formatOnce isRich fuel rest arguments.tail).after bytes (if isOfKind then 0 else 1)
  | fuel + 1, c :: rest, arguments =>
    (formatOnce isRich fuel rest arguments).after (charBytes c) 0

/-- A format that is used again as long as arguments are left: its bytes, and the status. -/
def formattedFrom (isRich : Bool) : (fuel : Nat) → (format : List Char) →
    (arguments : List (List Char)) → Bytes × Nat
  | 0, _, _ => ([], 0)
  | fuel + 1, format, arguments =>
    let pass := formatOnce isRich format.length format arguments
    if pass.ended || pass.arguments.isEmpty || pass.arguments.length = arguments.length then
      (pass.bytes, pass.status)
    else
      let (bytes, status) := formattedFrom isRich fuel format pass.arguments
      (pass.bytes ++ bytes, max pass.status status)

def formatted (isRich : Bool) (format : List Char) (arguments : List (List Char)) : Bytes × Nat :=
  formattedFrom isRich (arguments.length + 1) format arguments

end AssetSeed.Shell
