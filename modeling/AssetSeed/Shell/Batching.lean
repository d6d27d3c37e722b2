import AssetSeed.Shell.Utility

/-!
# Arguments from the input

## Main definitions

* `Batching` — how a list of words is dealt out to calls of a command.
* `Batching.calls` — the arguments of each call.
-/

namespace AssetSeed.Shell

/-- How many lines or arguments one call of `xargs` takes, whether no input means no call, and the
command. -/
structure Batching where
  lines : Option Nat := none
  words : Option Nat := none
  skipsNothing : Bool := false
  command : List String := []

/-- The batching that arguments ask for. How many calls may run at once does not matter. -/
def Batching.ofArguments : List String → Batching
  | "-r" :: rest => { ofArguments rest with skipsNothing := true }
  | "-L" :: n :: rest => { ofArguments rest with lines := some (integerOf n.toList).toNat }
  | "-n" :: n :: rest => { ofArguments rest with words := some (integerOf n.toList).toNat }
  | "-P" :: _ :: rest => ofArguments rest
  | command => { command := if command.isEmpty then ["echo"] else command }

/-- A list in rows of at most `size`; `fuel` bounds the number of rows. -/
def rows {α : Type} (size : Nat) : (fuel : Nat) → List α → List (List α)
  | 0, _ => []
  | _, [] => []
  | fuel + 1, items => items.take size :: rows size fuel (items.drop size)

/-- The arguments of each call. -/
def Batching.calls (batching : Batching) (input : Bytes) : List (List String) :=
  let lines := (byteLines input).map fun line =>
    (Shell.words (Text.utf8Lossy line).toList).map String.ofList
  let lines := lines.filter fun line => !line.isEmpty
  let calls := match batching.lines, batching.words with
    | some n, _ => (rows (max n 1) lines.length lines).map List.flatten
    | none, some n => rows (max n 1) lines.flatten.length lines.flatten
    | none, none => if lines.isEmpty then [] else [lines.flatten]
  if calls.isEmpty && !batching.skipsNothing then [[]] else calls

end AssetSeed.Shell
