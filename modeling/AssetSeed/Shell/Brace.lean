import AssetSeed.Shell.Word

/-!
# Words that stand for several

Texts between braces with commas between them, and ranges of numbers or letters, make one word of
each text.

## Main definitions

* `Word.alternatives` — the words that a word stands for.
-/

namespace AssetSeed.Shell.Word

/-- The sign that a piece is, if it is one outside of quotes. -/
def sign? : Piece → Option Char
  | .text [c] false => some c
  | _ => none

/-- The pieces up to the brace that closes, cut at the commas that stand in no further braces, and
what follows. -/
def untilBrace : (depth : Nat) → Word → Option (List Word × Word)
  | _, [] => none
  | depth, piece :: rest =>
    let sign := sign? piece
    if sign = some '\x7d' && depth = 0 then some ([[]], rest)
    else
      let deeper := if sign = some '\x7b' then depth + 1
        else if sign = some '\x7d' then depth - 1 else depth
      (untilBrace deeper rest).map fun (parts, after) =>
        if sign = some ',' && depth = 0 then ([] :: parts, after)
        else
          match parts with
          | part :: more => ((piece :: part) :: more, after)
          | [] => ([[piece]], after)

/-- The numbers from one to another, upwards or downwards. -/
def numbersBetween (first last step : Int) : List Int :=
  let stride := max 1 step.natAbs
  let count := (last - first).natAbs / stride + 1
  (List.range count).map fun (i : Nat) =>
    if first ≤ last then first + Int.ofNat (i * stride) else first - Int.ofNat (i * stride)

def integer? (s : List Char) : Option Int :=
  match s with
  | '-' :: digits => (Text.natural? (1 <<< 63) digits).map (-Int.ofNat ·)
  | digits => (Text.natural? (1 <<< 63) digits).map Int.ofNat

/-- The texts of a range, such as `1..3`. -/
def range? (part : Word) : Option (List (List Char)) := do
  let text ← plain? part
  let pieces := (String.ofList text).splitOn ".."
  match pieces.map String.toList with
  | [a, b] =>
    match integer? a, integer? b, a, b with
    | some first, some last, _, _ =>
      some ((numbersBetween first last 1).map fun n => (toString n).toList)
    | _, _, [x], [y] =>
      some ((numbersBetween x.toNat y.toNat 1).map fun n => [Char.ofNat n.toNat])
    | _, _, _, _ => none
  | [a, b, c] => do
    let numbers := numbersBetween (← integer? a) (← integer? b) (← integer? c)
    some (numbers.map fun n => (toString n).toList)
  | _ => none

/-- The words that a word stands for; `fuel` bounds the number of its pieces. -/
def alternativesUpTo : (fuel : Nat) → Word → List Word
  | 0, word => [word]
  | _, [] => [[]]
  | fuel + 1, piece :: rest =>
    let kept := (alternativesUpTo fuel rest).map (piece :: ·)
    if sign? piece = some '\x7b' then
      match untilBrace 0 rest with
      | some ([part], after) =>
        match range? part with
        | some texts => texts.flatMap fun text =>
            (alternativesUpTo fuel after).map (.text text false :: ·)
        | none => kept
      | some (parts, after) => parts.flatMap fun part =>
          (alternativesUpTo fuel (part ++ after))
      | none => kept
    else kept

def alternatives (word : Word) : List Word :=
  if word.any fun piece => sign? piece = some '\x7b' then
    alternativesUpTo (word.length + 1) word
  else [word]

end AssetSeed.Shell.Word
