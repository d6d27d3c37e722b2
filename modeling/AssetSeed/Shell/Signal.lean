import AssetSeed.Text.Numeral

/-!
# Signals

## Main definitions

* `Signal.ofText?` — the number of a signal.
* `Signal.isHarmless` — whether a process goes on that gets the signal.
-/

namespace AssetSeed.Shell.Signal

/-- The names of the signals in the order of their numbers. -/
def names : List String :=
  ["EXIT", "HUP", "INT", "QUIT", "ILL", "TRAP", "ABRT", "BUS", "FPE", "KILL", "USR1", "SEGV",
    "USR2", "PIPE", "ALRM", "TERM", "STKFLT", "CHLD", "CONT", "STOP", "TSTP", "TTIN", "TTOU", "URG",
    "XCPU", "XFSZ", "VTALRM", "PROF", "WINCH", "POLL", "PWR", "SYS"]

/-- The number of a signal that is given by its number or by its name in any case. -/
def ofText? (text : String) : Option Nat :=
  (Text.natural? 64 text.toList).or
    (let name := text.toList.map Char.toUpper
    let name := if "SIG".toList.isPrefixOf name then name.drop 3 else name
    (names.idxOf? (String.ofList name)).or (if name = "IO".toList then some 29 else none))

/-- Whether a process goes on that gets the signal and has not asked for anything else. -/
def isHarmless (signal : Nat) : Bool :=
  [0, 17, 18, 19, 20, 21, 22, 23, 28].contains signal

end AssetSeed.Shell.Signal
