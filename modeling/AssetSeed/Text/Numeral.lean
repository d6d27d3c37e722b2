import AssetSeed.Text.CharClass

/-!
# Numerals

## Main definitions

* `digitValue`, `hexValue` — what a digit stands for.
* `numeralValue` — what a row of digits stands for.
* `natural?` — a decimal numeral with an optional plus sign, up to a bound.
* `hexByte` — two hexadecimal digits.
-/

namespace AssetSeed.Text

def digitValue (c : Char) : Nat :=
  c.toNat - '0'.toNat

def hexValue (c : Char) : Nat :=
  if isDigit c then digitValue c
  else if 'a' ≤ c && c ≤ 'f' then c.toNat - 'a'.toNat + 10
  else c.toNat - 'A'.toNat + 10

def numeralValue (base : Nat) (value : Char → Nat) (digits : List Char) : Nat :=
  digits.foldl (fun n c => n * base + value c) 0

def decimalValue (digits : List Char) : Nat :=
  numeralValue 10 digitValue digits

/-- Reads a decimal numeral of at least one digit, with leading zeros and a plus sign allowed, that
does not exceed `bound`. -/
def natural? (bound : Nat) (s : List Char) : Option Nat :=
  let digits := match s with
    | '+' :: rest => rest
    | _ => s
  if digits.isEmpty || !digits.all isDigit then none
  else if decimalValue digits ≤ bound then some (decimalValue digits)
  else none

def hexByte (b : UInt8) : List Char :=
  [Nat.digitChar (b.toNat / 16), Nat.digitChar (b.toNat % 16)]

end AssetSeed.Text
