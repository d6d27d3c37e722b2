import AssetSeed.Shell.Utility

/-!
# Reading lines into variables

## Main definitions

* `assignFields` — the fields of a line as values of variables.
* `read` — the next line of the input.
-/

namespace AssetSeed.Shell

open Text

/-- The bytes of the next line, of which some are plain, what follows it, and whether it has an end.
Unless it is taken as it is, a backslash makes the next byte plain, and hides the end of a line. -/
def readLine (isRaw : Bool) : (isEscaped : Bool) → Bytes → List Glyph × Bytes × Bool
  | _, [] => ([], [], false)
  | isEscaped, b :: rest =>
    if b = 10 then if isEscaped then readLine isRaw false rest else ([], rest, true)
    else if b = 92 && !isRaw && !isEscaped then readLine isRaw true rest
    else
      let (line, rest, ended) := readLine isRaw false rest
      (⟨Char.ofNat b.toNat, isEscaped⟩ :: line, rest, ended)

/-- The text of glyphs that are bytes. -/
def textOfBytes (glyphs : List Glyph) : String :=
  utf8Lossy (glyphs.map fun g => UInt8.ofNat g.char.toNat)

/-- Gives names the fields of a line. The last name gets all that is left. -/
def assignFields (separators : List Char) : (names : List String) → (line : List Glyph) →
    Session → Session
  | [], _, session => session
  | name :: rest, line, session =>
    let isGapGlyph (g : Glyph) : Bool := !g.plain && separators.contains g.char && isGap g.char
    let isSeparator (g : Glyph) : Bool := !g.plain && separators.contains g.char
    let line := line.dropWhile isGapGlyph
    if rest.isEmpty then
      let trimmed := (line.reverse.dropWhile isGapGlyph).reverse
      let isSingle := !(trimmed.dropLast.any isSeparator)
      let held := if isSingle && trimmed.getLast?.any isSeparator then trimmed.dropLast
        else trimmed
      session.set name (textOfBytes held)
    else
      let field := line.takeWhile (!isSeparator ·)
      let after := (line.drop field.length).dropWhile isGapGlyph
      let after := if after.head?.any isSeparator then after.drop 1 else after
      assignFields separators rest after
        (session.set name (textOfBytes field))

/-- The next line of the input. -/
def read : Utility := fun arguments session =>
  let (letters, names) := splitOptions arguments
  let (line, rest, ended) := readLine (letters.contains 'r') false session.input
  let session := { session with input := rest }
  (assignFields session.separators (if names.isEmpty then ["REPLY"] else names) line
    session).returns (if ended then 0 else 1)

end AssetSeed.Shell
