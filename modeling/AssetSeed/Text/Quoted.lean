import AssetSeed.Text.Quoted.Table

/-!
# Quoted texts

A text between double quotes in which quotes, backslashes and control characters are escaped, and
characters that cannot be shown are given by their code point in hexadecimal.

## Main definitions

* `quote` — a text, quoted.
* `quoteList` — a list of texts in square brackets.
-/

namespace AssetSeed.Text

namespace Quoted

def escapeChar (c : Char) : List Char :=
  match c with
  | '\x00' => ['\\', '0']
  | '\t' => ['\\', 't']
  | '\r' => ['\\', 'r']
  | '\n' => ['\\', 'n']
  | '"' => ['\\', '"']
  | '\\' => ['\\', '\\']
  | other =>
    if hidden.contains other then
      ['\\', 'u', '\x7b'] ++ Nat.toDigits 16 other.toNat ++ ['\x7d']
    else
      [other]

def encode (s : List Char) : List Char :=
  ['"'] ++ s.flatMap escapeChar ++ ['"']

end Quoted

def quote (s : String) : String :=
  String.ofList (Quoted.encode s.toList)

def quoteList (items : List String) : String :=
  "[" ++ ", ".intercalate (items.map quote) ++ "]"

end AssetSeed.Text
