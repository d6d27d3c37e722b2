import AssetSeed.CommandLine.Error
import AssetSeed.Recipe.Variant
import AssetSeed.Text.Quoted
import AssetSeed.Text.Truth

/-!
# Parameters of a command line

## Main definitions

* `Check` — what a value has to look like.
* `Usage` — how many values one use of a parameter takes, and how often it may be used.
* `Parameter` — an option or an operand.
* `Grammar` — the parameters of one command.
-/

namespace AssetSeed.CommandLine

inductive Check where
  | any
  /-- A path, which is not empty. -/
  | path
  | truth
  | board
  | suite
deriving Repr, DecidableEq

/-- Refuses the value of the named parameter that does not pass. -/
def Check.accept (check : Check) (name value : String) : Except ArgumentError Unit :=
  match check with
  | any => .ok ()
  | path => if value.isEmpty then .error (.valueMissing name) else .ok ()
  | truth =>
    if (Text.truth? value).isSome then .ok ()
    else
      .error (.refused name ("boolean value expected, got " ++ Text.quote (Text.truthWord value)))
  | board => ((Recipe.Board.ofText value).mapError fun e => .refused name e.message).map fun _ => ()
  | suite => ((Recipe.Suite.ofText value).mapError fun e => .refused name e.message).map fun _ => ()

inductive Usage where
  /-- Takes nothing, and ends the reading with the help text. -/
  | help
  /-- Takes nothing, and ends the reading with the version. -/
  | version
  /-- Takes nothing, and may be used once. -/
  | switch
  /-- Takes nothing; what counts is how often it is used. -/
  | counter
  /-- Takes one value, and may be used once. -/
  | single
  /-- Takes at most one value, and may be used once. Without a value it means `missing`. -/
  | optional (missing : String)
  /-- Takes any number of values, on top of those of earlier uses. -/
  | many
deriving Repr, DecidableEq

namespace Usage

def takesValues : Usage → Bool
  | single | optional _ | many => true
  | _ => false

/-- Whether a use that has got `count` values takes another one. -/
def hasRoom (usage : Usage) (count : Nat) : Bool :=
  match usage with
  | single | optional _ => count = 0
  | many => true
  | _ => false

end Usage

structure Parameter where
  /-- The long name of an option, or what an operand stands for. -/
  name : String
  letter : Option Char := none
  usage : Usage := .single
  check : Check := .any
  /-- The variable whose value counts if the parameter is not used. -/
  envName : Option String := none
  /-- The value if there is no other. -/
  default : Option String := none
  /-- Options whose earlier use this one takes back. -/
  revokes : List String := []
deriving Repr, DecidableEq

structure Grammar where
  options : List Parameter
  /-- What the words stand for that belong to no option, in order. All of them are needed. -/
  operands : List Parameter := []
deriving Repr, DecidableEq

namespace Grammar

def named? (grammar : Grammar) (name : String) : Option Parameter :=
  grammar.options.find? fun option => option.name = name

def lettered? (grammar : Grammar) (letter : Char) : Option Parameter :=
  grammar.options.find? fun option => option.letter = some letter

end Grammar

end AssetSeed.CommandLine
