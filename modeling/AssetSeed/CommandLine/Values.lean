import AssetSeed.CommandLine.Parameter
import AssetSeed.Environment.Basic

/-!
# Values of parameters

## Main definitions

* `Values` — the parameters that have been given, with their values.
* `Values.use` — the values after one use of a parameter.
* `Values.fill`, `Values.complete` — the values with what the environment and the defaults add.
-/

namespace AssetSeed.CommandLine

/-- The parameters that have been given, with their values. A parameter can be given and have no
value. -/
structure Values where
  entries : List (String × List String) := []
deriving Repr, DecidableEq, Inhabited

namespace Values

def get? (values : Values) (name : String) : Option (List String) :=
  (values.entries.find? fun entry => entry.1 = name).map (·.2)

def contains (values : Values) (name : String) : Bool :=
  (values.get? name).isSome

def list (values : Values) (name : String) : List String :=
  (values.get? name).getD []

def first? (values : Values) (name : String) : Option String :=
  (values.list name).head?

def first (values : Values) (name : String) : String :=
  (values.first? name).getD ""

/-- How often a counter was used. There is no count above the greatest byte. -/
def count (values : Values) (name : String) : Nat :=
  min 255 (values.list name).length

def erase (values : Values) (name : String) : Values where
  entries := values.entries.filter fun entry => entry.1 ≠ name

def set (values : Values) (name : String) (items : List String) : Values where
  entries := (values.erase name).entries ++ [(name, items)]

/-- Adds values, each of which has to pass the parameter's check. -/
def add (values : Values) (parameter : Parameter) (items : List String) :
    Except ArgumentError Values := do
  items.forM (parameter.check.accept parameter.name)
  return values.set parameter.name (values.list parameter.name ++ items)

/-- Gives a parameter that must not have been given before. What it revokes is taken back. -/
def addOnce (values : Values) (parameter : Parameter) (items : List String) :
    Except ArgumentError Values :=
  if values.contains parameter.name then .error (.repeated parameter.name)
  else (parameter.revokes.foldl erase values).add parameter items

def use (values : Values) (parameter : Parameter) (items : List String) :
    Except ArgumentError Values :=
  match parameter.usage with
  | .help => .error .helpWanted
  | .version => .error .versionWanted
  | .switch => values.addOnce parameter []
  | .counter => values.add parameter [""]
  | .single =>
    if items.isEmpty then .error (.valueMissing parameter.name)
    else values.addOnce parameter items
  | .optional missing => values.addOnce parameter (if items.isEmpty then [missing] else items)
  | .many => values.add parameter items

/-- A parameter that has not been given gets the value of its variable, or else its default. -/
def fill (env : Environment) (values : Values) (parameter : Parameter) :
    Except ArgumentError Values :=
  if values.contains parameter.name then .ok values
  else
    match (parameter.envName.bind env.get?).or parameter.default with
    | some value => values.add parameter [value]
    | none => .ok values

/-- The values of all parameters of a command, none of its operands missing. -/
def complete (grammar : Grammar) (env : Environment) (values : Values) :
    Except ArgumentError Values := do
  let values ← grammar.options.foldlM (fill env) values
  match (grammar.operands.map (·.name)).filter fun name => !values.contains name with
  | [] => return values
  | missing => throw (.operandsMissing missing)

end Values

end AssetSeed.CommandLine
