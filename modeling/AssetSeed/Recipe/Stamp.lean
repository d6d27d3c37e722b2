import AssetSeed.Text.Pieces

/-!
# Time stamps

A stamp gives the date and the minute of a moment in universal time.

## Main definitions

* `Date.ofDays` — the date that is a number of days after the first of January 1970.
* `stamp` — the stamp of a moment.
-/

namespace AssetSeed.Recipe

structure Date where
  year : Nat
  month : Nat
  day : Nat
deriving Repr, DecidableEq

/-- The date that is a number of days after the first of January 1970. Years are counted from March
on, so that the leap day is the last one of a year. -/
def Date.ofDays (days : Nat) : Date :=
  let shifted := days + 719468
  let ofCycle := shifted % 146097
  let yearOfCycle := (ofCycle - ofCycle / 1460 + ofCycle / 36524 - ofCycle / 146096) / 365
  let ofYear := ofCycle - (365 * yearOfCycle + yearOfCycle / 4 - yearOfCycle / 100)
  let fromMarch := (5 * ofYear + 2) / 153
  let year := yearOfCycle + shifted / 146097 * 400
  { year := if fromMarch < 10 then year else year + 1
    month := if fromMarch < 10 then fromMarch + 3 else fromMarch - 9
    day := ofYear - (153 * fromMarch + 2) / 5 + 1 }

/-- A number of at least `width` digits. -/
def digits (width n : Nat) : List Char :=
  let shown := (toString n).toList
  List.replicate (width - shown.length) '0' ++ shown

/-- The stamp of a moment, which is given in seconds. -/
def stamp (seconds : Nat) : String :=
  let date := Date.ofDays (seconds / 86400)
  let minutes := seconds % 86400 / 60
  String.ofList <| Text.joinWith ['-'] [digits 4 date.year, digits 2 date.month, digits 2 date.day]
    ++ [' '] ++ Text.joinWith [':'] [digits 2 (minutes / 60), digits 2 (minutes % 60)]

end AssetSeed.Recipe
