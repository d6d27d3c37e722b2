import AssetSeed.Text.CharClass

/-!
# Patterns

A pattern fits whole texts. An asterisk in it stands for any characters, a question mark for one,
and characters between brackets for one of them.

## Main definitions

* `Glyph` — a character, and whether it can be a sign of a pattern.
* `Pattern.ofGlyphs` — the pattern that glyphs write down.
* `Pattern.fits` — whether a text fits a pattern.
-/

namespace AssetSeed.Shell

/-- A character of a text. A plain one stands for itself in any pattern. -/
structure Glyph where
  char : Char
  plain : Bool
deriving Repr, DecidableEq

namespace Glyph

def isSign (g : Glyph) (c : Char) : Bool :=
  g.char = c && !g.plain

def text (glyphs : List Glyph) : List Char :=
  glyphs.map (·.char)

/-- Whether any sign of a pattern is among the glyphs. -/
def anySign (glyphs : List Glyph) : Bool :=
  glyphs.any fun g => g.isSign '*' || g.isSign '?' || g.isSign '['

end Glyph

inductive PatternPart where
  | char (c : Char)
  /-- One character. -/
  | one
  /-- Any number of characters. -/
  | any
  /-- One character that is, or that is not, in the class. -/
  | oneOf (negated : Bool) (cls : Text.CharClass)
deriving Repr, DecidableEq

abbrev Pattern := List PatternPart

namespace Pattern

/-- The classes that have a name. -/
def namedClass (name : List Char) : List (Nat × Nat) :=
  match String.ofList name with
  | "digit" => [(0x30, 0x39)]
  | "lower" => [(0x61, 0x7a)]
  | "upper" => [(0x41, 0x5a)]
  | "alpha" => [(0x41, 0x5a), (0x61, 0x7a)]
  | "alnum" => [(0x30, 0x39), (0x41, 0x5a), (0x61, 0x7a)]
  | "xdigit" => [(0x30, 0x39), (0x41, 0x46), (0x61, 0x66)]
  | "space" => [(0x9, 0xd), (0x20, 0x20)]
  | "blank" => [(0x9, 0x9), (0x20, 0x20)]
  | "punct" => [(0x21, 0x2f), (0x3a, 0x40), (0x5b, 0x60), (0x7b, 0x7e)]
  | _ => []

/-- The ranges of what stands between brackets. -/
def ranges : (fuel : Nat) → List Char → List (Nat × Nat)
  | 0, _ => []
  | fuel + 1, '[' :: ':' :: rest =>
    namedClass (rest.takeWhile (· ≠ ':')) ++ ranges fuel ((rest.dropWhile (· ≠ ':')).drop 2)
  | fuel + 1, a :: '-' :: b :: rest => (a.toNat, b.toNat) :: ranges fuel rest
  | fuel + 1, c :: rest => (c.toNat, c.toNat) :: ranges fuel rest
  | _, [] => []

/-- What stands before the bracket that closes, and what follows it. `inName` says whether that is
the name of a class. -/
def untilBracket : (inName : Bool) → List Glyph → Option (List Glyph × List Glyph)
  | _, [] => none
  | false, g :: rest =>
    if g.isSign ']' then some ([], rest)
    else
      (untilBracket (g.isSign '[' && rest.head?.any (·.char = ':')) rest).map
        fun (a, b) => (g :: a, b)
  | true, g :: rest =>
    (untilBracket (!g.isSign ']') rest).map fun (a, b) => (g :: a, b)

/-- The part after an opening bracket, and what follows it. A closing bracket right after it belongs
to the class. -/
def bracket? (glyphs : List Glyph) : Option (PatternPart × List Glyph) := do
  let negated := glyphs.head?.any fun g => g.isSign '!' || g.isSign '^'
  let inside := if negated then glyphs.drop 1 else glyphs
  let first := inside.take 1
  let (held, rest) ← untilBracket (first.any (·.isSign '[') &&
    (inside.drop 1).head?.any (·.char = ':')) (inside.drop 1)
  let chars := Glyph.text (first ++ held)
  if first.isEmpty then none else some (.oneOf negated ⟨ranges chars.length chars⟩, rest)

def readParts : (fuel : Nat) → List Glyph → Pattern
  | 0, _ => []
  | _, [] => []
  | fuel + 1, g :: rest =>
    if g.isSign '*' then .any :: readParts fuel rest
    else if g.isSign '?' then .one :: readParts fuel rest
    else
      match (if g.isSign '[' then bracket? rest else none) with
      | some (part, rest) => part :: readParts fuel rest
      | none => .char g.char :: readParts fuel rest

def ofGlyphs (glyphs : List Glyph) : Pattern :=
  readParts glyphs.length glyphs

def PatternPart.accepts : PatternPart → Char → Bool
  | .char d, c => c = d
  | .one, _ => true
  | .any, _ => true
  | .oneOf negated cls, c => cls.contains c != negated

/-- Whether a text fits. -/
def fits : Pattern → List Char → Bool
  | [], s => s.isEmpty
  | .any :: parts, [] => fits parts []
  | .any :: parts, c :: rest => fits parts (c :: rest) || fits (.any :: parts) rest
  | _ :: _, [] => false
  | part :: parts, c :: rest => PatternPart.accepts part c && fits parts rest
termination_by pattern s => pattern.length + s.length

/-- The length of the longest or the shortest start of a text that fits. -/
def startLength? (pattern : Pattern) (longest : Bool) (s : List Char) : Option Nat :=
  let lengths := List.range (s.length + 1)
  (if longest then lengths.reverse else lengths).find? fun n => pattern.fits (s.take n)

/-- A text without a start, or an end, that fits. -/
def without (pattern : Pattern) (fromEnd longest : Bool) (s : List Char) : List Char :=
  if fromEnd then
    let lengths := List.range (s.length + 1)
    match (if longest then lengths else lengths.reverse).find? fun n => pattern.fits (s.drop n) with
    | some n => s.take n
    | none => s
  else s.drop ((pattern.startLength? longest s).getD 0)

/-- A text with another one for what fits, from left to right; `fuel` bounds how often. -/
def replace (pattern : Pattern) (text : List Char) : (fuel : Nat) → List Char → List Char
  | 0, s => s
  | fuel + 1, s =>
    let found? := (List.range s.length).findSome? fun start =>
      ((pattern.startLength? true (s.drop start)).filter (0 < ·)).map (start, ·)
    match found? with
    | some (start, count) =>
      s.take start ++ text ++ replace pattern text fuel (s.drop (start + count))
    | none => s

end Pattern

end AssetSeed.Shell
