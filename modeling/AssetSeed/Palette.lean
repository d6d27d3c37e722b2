import AssetSeed.Palette.Keystream
import AssetSeed.Text.Numeral

/-!
# Colours for roles

Colours drawn at random from those that are neither pale nor dark.

## Main definitions

* `Palette` — a keystream and how much of it is used.
* `Palette.next` — a colour as six hexadecimal digits, and the palette after it.
* `Palette.paint` — a colour for each item of a list.
-/

namespace AssetSeed

structure Palette where
  keystream : Keystream
  used : Nat := 0
deriving Repr, DecidableEq, Inhabited

namespace Palette

def ofSeed (seed : UInt64) : Palette :=
  { keystream := .ofSeed seed }

/-- A number of at least one and less than two, from the upper 52 bits of a random number. -/
def oneToTwo (random : UInt64) : Float :=
  Float.ofBits ((0x3ff0000000000000 : UInt64) ||| (random >>> 12))

/-- A number of at least `low` and less than `high`. A draw that rounds up to `high` is repeated, at
most `tries` times. -/
def between (low high : Float) : (tries : Nat) → Palette → Float × Palette
  | 0, palette => (low, palette)
  | tries + 1, palette =>
    let drawn := (oneToTwo (palette.keystream.number palette.used) - 1.0) * (high - low) + low
    let palette := { palette with used := palette.used + 1 }
    if drawn < high then (drawn, palette) else between low high tries palette

def channel (x : Float) : UInt8 :=
  (x * 255.0).round.toUInt8

/-- Red, green and blue of a hue in degrees, a saturation and a value. -/
def ofHue (hue saturation value : Float) : UInt8 × UInt8 × UInt8 :=
  let chroma := value * saturation
  let sector := hue / 60.0
  let withinPair := sector - 2.0 * (sector / 2.0).floor
  let second := chroma * (1.0 - (withinPair - 1.0).abs)
  let (r, g, b) :=
    if sector < 1.0 then (chroma, second, 0.0)
    else if sector < 2.0 then (second, chroma, 0.0)
    else if sector < 3.0 then (0.0, chroma, second)
    else if sector < 4.0 then (0.0, second, chroma)
    else if sector < 5.0 then (second, 0.0, chroma)
    else (chroma, 0.0, second)
  let base := value - chroma
  (channel (r + base), channel (g + base), channel (b + base))

def next (palette : Palette) : String × Palette :=
  let (hue, palette) := between 0.0 360.0 64 palette
  let (saturation, palette) := between 0.55 0.95 64 palette
  let (value, palette) := between 0.60 0.95 64 palette
  let (r, g, b) := ofHue hue saturation value
  (String.ofList (Text.hexByte r ++ Text.hexByte g ++ Text.hexByte b), palette)

/-- Each item with a colour of its own, drawn in order. -/
def paint {α : Type} (palette : Palette) : List α → List (α × String)
  | [] => []
  | item :: rest =>
    let (color, palette) := palette.next
    (item, color) :: palette.paint rest

end Palette

end AssetSeed
