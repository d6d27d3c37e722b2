import AssetSeed.Text.Pieces

/-!
# Paths

A path is a row of names with slashes between them. It is kept as it is written; a doubled slash
and a point that stands for a name mean nothing.

## Main definitions

* `Path` — a path as it is written.
* `Path.join` — a path seen from another one.
* `Path.steps` — the names, the points among them.
* `Path.fileName?` — the last name.
* `Path.parent` — the path without its last name.
* `Path.withoutExtension` — the path without the extension of its last name.
-/

namespace AssetSeed

open Text

structure Path where
  text : String
deriving Repr, DecidableEq, Inhabited

namespace Path

def isAbsolute (path : Path) : Bool :=
  ['/'].isPrefixOf path.text.toList

/-- The path `name` seen from `base`. An absolute path does not depend on where it is seen from. -/
def join (base : Path) (name : String) : Path :=
  if isAbsolute ⟨name⟩ then ⟨name⟩
  else if base.text.isEmpty || endsWith ['/'] base.text.toList then ⟨base.text ++ name⟩
  else ⟨base.text ++ "/" ++ name⟩

/-- What stands between the slashes. -/
def steps (path : Path) : List String :=
  (split (· = '/') path.text.toList).map String.ofList

/-- Whether a step leads nowhere. -/
def isIdle (step : List Char) : Bool :=
  step = [] || step = ['.']

/-- The steps in reverse, from the last one that leads somewhere. -/
def trail (path : Path) : List (List Char) :=
  (split (· = '/') path.text.toList).reverse.dropWhile isIdle

/-- The last name, unless the path ends in a step back. -/
def fileName? (path : Path) : Option String :=
  match path.trail with
  | [] => none
  | name :: _ => if name = ['.', '.'] then none else some (String.ofList name)

/-- The path of what stands before the last name. A path without a name has itself above it. -/
def parent (path : Path) : Path :=
  let above := (path.trail.drop 1).dropWhile isIdle
  ⟨String.ofList ((if path.isAbsolute then ['/'] else [])
    ++ (joinWith ['/'] above.reverse).dropWhile (· = '/'))⟩

/-- What stands before the last point of a name. A point at the start does not count. -/
def stem (name : List Char) : List Char :=
  match (name.reverse.dropWhile (· ≠ '.')).tail.reverse with
  | [] => name
  | before => before

/-- The path with its last name cut to the stem, and nothing after it. A path without a last name
stays as it is, and a name of which only a point would be left at the end of the path keeps two of
them: it has become a step back. -/
def withoutExtension (path : Path) : Path :=
  match path.trail with
  | [] => path
  | name :: before =>
    if name = ['.', '.'] then path
    else
      let isLast := endsWith name path.text.toList
      let kept := if isLast && stem name = ['.'] && name ≠ ['.'] then ['.', '.'] else stem name
      ⟨String.ofList (joinWith ['/'] (before.reverse ++ [kept]))⟩

end Path

end AssetSeed
