/-!
# Command lines that lead nowhere

## Main definitions

* `ArgumentError` — why the reading of a command line ended early.
* `ArgumentError.exitCode` — how the program ends then.
-/

namespace AssetSeed

inductive ArgumentError where
  /-- The help text is called for. -/
  | helpWanted
  /-- The version is called for. -/
  | versionWanted
  /-- There is nothing at all to go by. -/
  | nothingGiven
  | noSubcommand
  | unknownSubcommand (word : String)
  | unknownArgument (word : String)
  /-- A value was given to an option that takes none. -/
  | valueNotTaken (option : String)
  /-- A value is missing, or is empty where it may not be. -/
  | valueMissing (parameter : String)
  /-- An option was used again that may be used once. -/
  | repeated (option : String)
  | operandsMissing (operands : List String)
  /-- A value that does not pass the check of its parameter. -/
  | refused (parameter reason : String)
deriving Repr, DecidableEq

namespace ArgumentError

/-- Only what was called for is no mistake. -/
def exitCode : ArgumentError → Nat
  | helpWanted | versionWanted => 0
  | _ => 2

end ArgumentError

end AssetSeed
