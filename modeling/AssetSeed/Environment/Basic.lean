import AssetSeed.Text.Numeral

/-!
# Variables of the environment

## Main definitions

* `Environment` — names with their values.
* `Environment.get?`, `Environment.getD` — looking a name up.
* `Environment.seconds` — a whole number of seconds.
* `Environment.set` — a name with a value, in place of the one that it has.
-/

namespace AssetSeed

/-- Names with their values. Of equal names the first one counts. -/
structure Environment where
  entries : List (String × String) := []
deriving Repr, DecidableEq, Inhabited

namespace Environment

def get? (env : Environment) (name : String) : Option String :=
  (env.entries.find? fun entry => entry.1 = name).map (·.2)

def getD (env : Environment) (name default : String) : String :=
  (env.get? name).getD default

def contains (env : Environment) (name : String) : Bool :=
  (env.get? name).isSome

/-- The greatest number of seconds that a variable may ask for. -/
def maxSeconds : Nat :=
  (1 <<< 64) - 1

/-- A number of seconds; what is not a numeral up to the greatest number counts as missing. -/
def seconds (env : Environment) (name : String) (default : Nat) : Nat :=
  ((env.get? name).bind fun value => Text.natural? maxSeconds value.toList).getD default

def erase (env : Environment) (name : String) : Environment where
  entries := env.entries.filter fun entry => entry.1 ≠ name

def set (env : Environment) (name value : String) : Environment where
  entries := (env.erase name).entries ++ [(name, value)]

/-- The environment with further values, which replace those that it has. -/
def extend (env : Environment) (values : List (String × String)) : Environment :=
  values.foldl (fun env (name, value) => env.set name value) env

end Environment

end AssetSeed
