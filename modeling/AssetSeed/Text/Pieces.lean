import AssetSeed.Text.CharClass

/-!
# Cutting texts apart and putting them together

## Main definitions

* `split` — the pieces between separator characters.
* `cut?` — the two sides of the first separator.
* `joinWith` — pieces put together with a separator between them.
* `lines`, `unlines` — a text as a list of lines.
* `trim`, `trimStart`, `trimEnd` — a text without the white space at its ends.
* `replace` — every occurrence of a token exchanged for a value.
-/

namespace AssetSeed.Text

/-- The pieces of a list between the elements that `sep` accepts; one more than there are of
those. -/
def split {α : Type} (sep : α → Bool) : List α → List (List α)
  | [] => [[]]
  | c :: rest =>
    if sep c then
      [] :: split sep rest
    else
      match split sep rest with
      | [] => [[c]]
      | piece :: pieces => (c :: piece) :: pieces

/-- What stands before and after the first occurrence of `sep`. -/
def cut? {α : Type} [DecidableEq α] (sep : α) : List α → Option (List α × List α)
  | [] => none
  | c :: rest =>
    if c = sep then some ([], rest)
    else (cut? sep rest).map fun (left, right) => (c :: left, right)

def joinWith (sep : List Char) : List (List Char) → List Char
  | [] => []
  | [piece] => piece
  | piece :: pieces => piece ++ sep ++ joinWith sep pieces

/-- The lines of a text. A line ends at a line feed, with a carriage return before it if there is
one, or at the end of the text; an empty last line does not count. -/
def lines : List Char → List (List Char)
  | [] => []
  | '\r' :: '\n' :: rest => [] :: lines rest
  | '\n' :: rest => [] :: lines rest
  | c :: rest =>
    match lines rest with
    | [] => [[c]]
    | line :: more => (c :: line) :: more

/-- Lines with a line feed between them and one at the end. -/
def unlines (ls : List (List Char)) : List Char :=
  joinWith ['\n'] ls ++ ['\n']

def trimStart (s : List Char) : List Char :=
  s.dropWhile isBlank

def trimEnd (s : List Char) : List Char :=
  (s.reverse.dropWhile isBlank).reverse

def trim (s : List Char) : List Char :=
  trimEnd (trimStart s)

/-- The characters that `trimStart` takes away. -/
def indentation (s : List Char) : List Char :=
  s.takeWhile isBlank

/-- Exchanges each occurrence of `token` for `value`, from the left and without overlap, after
passing over `skip` characters that belong to an occurrence already exchanged. -/
def replaceFrom (token value : List Char) : Nat → List Char → List Char
  | _, [] => []
  | skip + 1, _ :: rest => replaceFrom token value skip rest
  | 0, c :: rest =>
    if token.isPrefixOf (c :: rest) then
      value ++ replaceFrom token value (token.length - 1) rest
    else
      c :: replaceFrom token value 0 rest

/-- Exchanges each occurrence of a non-empty `token` for `value`, from the left and without
overlap. -/
def replace (token value : List Char) (s : List Char) : List Char :=
  replaceFrom token value 0 s

/-- Whether `s` ends in `ending`. -/
def endsWith (ending s : List Char) : Bool :=
  ending.isSuffixOf s

/-- Whether `part` occurs somewhere in `s`. -/
def occursIn (part : List Char) : List Char → Bool
  | [] => part.isEmpty
  | c :: rest => part.isPrefixOf (c :: rest) || occursIn part rest

end AssetSeed.Text
