import AssetSeed.Files.Disk
import AssetSeed.Shell.Pattern
import AssetSeed.Text.Pieces

/-!
# Fields

Values that are put into a word outside quotes are split at separators, and words in which signs of
a pattern are left stand for the paths that fit.

## Main definitions

* `Atom` — a part of a word whose pieces have their values.
* `fields`, `joined` — the words that atoms make, split and not split.
* `paths` — the paths that a word stands for.
-/

namespace AssetSeed.Shell

inductive Atom where
  | glyph (g : Glyph)
  /-- Makes a field, be it empty or not. -/
  | mark
  /-- A blank at which fields are split. -/
  | gap (c : Char)
  /-- A separator that ends a field, be it empty or not. -/
  | stop (c : Char)
  /-- Ends a field in any case. -/
  | cut
deriving Repr, DecidableEq

def isGap (c : Char) : Bool :=
  c = ' ' || c = '\t' || c = '\n'

/-- The atoms of a value that is split at separators unless it is quoted. -/
def atomsOf (separators : List Char) (quoted : Bool) (value : List Char) : List Atom :=
  if quoted then .mark :: value.map fun c => .glyph ⟨c, true⟩
  else value.map fun c =>
    if separators.contains c then (if isGap c then .gap c else .stop c) else .glyph ⟨c, false⟩

/-- The atoms of values that stay apart, in quotes or not. -/
def atomsOfValues (separators : List Char) (quoted : Bool) : List String → List Atom
  | [] => []
  | [value] => atomsOf separators quoted value.toList
  | value :: rest =>
    atomsOf separators quoted value.toList ++ .cut :: atomsOfValues separators quoted rest

/-- The fields of atoms, after a field that is begun if there is one. `closed` says whether a gap
has ended a field, with which a separator that follows goes together. -/
def fieldsFrom : (begun : Option (List Glyph)) → (closed : Bool) → List Atom → List (List Glyph)
  | begun, _, [] => begun.toList
  | begun, _, .glyph g :: rest => fieldsFrom (some (begun.getD [] ++ [g])) false rest
  | begun, _, .mark :: rest => fieldsFrom (some (begun.getD [])) false rest
  | begun, closed, .gap _ :: rest => begun.toList ++ fieldsFrom none (closed || begun.isSome) rest
  | begun, _, .cut :: rest => begun.toList ++ fieldsFrom none false rest
  | some field, _, .stop _ :: rest => field :: fieldsFrom none false rest
  | none, true, .stop _ :: rest => fieldsFrom none false rest
  | none, false, .stop _ :: rest => [] :: fieldsFrom none false rest

def fields (atoms : List Atom) : List (List Glyph) :=
  fieldsFrom none false atoms

/-- The atoms as one word. -/
def joined (atoms : List Atom) : List Glyph :=
  atoms.flatMap fun atom => match atom with
    | .glyph g => [g]
    | .gap c | .stop c => [⟨c, false⟩]
    | .mark => []
    | .cut => [⟨' ', false⟩]

def joinedText (atoms : List Atom) : String :=
  String.ofList (Glyph.text (joined atoms))

/-! ## Paths -/

/-- The names in a directory that fit, in order. A point at the start has to be written. -/
def namesThatFit (disk : Disk) (dir : String) (step : List Glyph) : List String :=
  let names := ((disk.entries ⟨if dir.isEmpty then "." else dir⟩).toOption.getD []).map (·.1)
  let wanted := names.filter fun name =>
    (step.head?.any (·.char = '.') || !(['.'].isPrefixOf name.toList))
      && (Pattern.ofGlyphs step).fits name.toList
  wanted.mergeSort fun a b => a ≤ b

/-- The paths that steps lead to from each of some paths. -/
def pathsFrom (disk : Disk) : (steps : List (List Glyph)) → (begun : List String) → List String
  | [], begun => begun
  | step :: rest, begun =>
    let ending := if rest.isEmpty then "" else "/"
    let longer := begun.flatMap fun dir =>
      if Glyph.anySign step then (namesThatFit disk dir step).map fun name => dir ++ name ++ ending
      else [dir ++ String.ofList (Glyph.text step) ++ ending]
    pathsFrom disk rest (longer.filter fun path => disk.exists? ⟨path⟩)

/-- The paths that a word stands for, or else the word as it is. -/
def paths (disk : Disk) (field : List Glyph) : List String :=
  let text := String.ofList (Glyph.text field)
  if Glyph.anySign field then
    match pathsFrom disk (Text.split (fun g => g.char = '/') field) [""] with
    | [] => [text]
    | found => found
  else [text]

end AssetSeed.Shell
