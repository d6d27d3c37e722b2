import AssetSeed.CommandLine.Values
import AssetSeed.Text.Pieces

/-!
# Reading arguments

An option takes its values from the arguments after it, up to the next option. Hence the use of an
option is settled only when the next one begins, or the arguments end.

## Main definitions

* `Argument` — what an argument is by its form.
* `Reading` — what has been read so far.
* `Reading.take` — one argument more.
* `Reading.takeAll` — all arguments of a command.
-/

namespace AssetSeed.CommandLine

inductive Argument where
  /-- Two dashes and no more: all that follows is operands. -/
  | separator
  | long (name : String) (value : Option String)
  /-- The letters after one dash, of which there is at least one. -/
  | short (letters : List Char)
  | word (text : String)
deriving Repr, DecidableEq

def Argument.ofText (text : String) : Argument :=
  match text.toList with
  | ['-', '-'] => separator
  | '-' :: '-' :: rest =>
    match Text.cut? '=' rest with
    | some (name, value) => long (String.ofList name) (some (String.ofList value))
    | none => long (String.ofList rest) none
  | '-' :: letter :: letters => short (letter :: letters)
  | _ => word text

structure Reading where
  values : Values := {}
  /-- A parameter that is in use, with the values it has got. -/
  pending : Option (Parameter × List String) := none
  /-- The operands to come. -/
  operands : List Parameter := []
deriving Repr, DecidableEq, Inhabited

namespace Reading

/-- Settles the use that is pending. -/
def settle (reading : Reading) : Except ArgumentError Reading :=
  match reading.pending with
  | none => .ok reading
  | some (parameter, items) => do
    return { reading with values := ← reading.values.use parameter items, pending := none }

/-- Uses a parameter with values that are known. -/
def use (reading : Reading) (parameter : Parameter) (items : List String) :
    Except ArgumentError Reading := do
  let reading ← reading.settle
  return { reading with values := ← reading.values.use parameter items }

/-- Begins to use a parameter whose values are still to come. -/
def await (reading : Reading) (parameter : Parameter) (items : List String) :
    Except ArgumentError Reading := do
  return { ← reading.settle with pending := some (parameter, items) }

/-- Uses an option that a value may be attached to. -/
def useOption (reading : Reading) (option : Parameter) (attached : Option String) :
    Except ArgumentError Reading :=
  match attached with
  | some value =>
    if option.usage.takesValues then reading.use option [value]
    else .error (.valueNotTaken option.name)
  | none => if option.usage.takesValues then reading.await option [] else reading.use option []

/-- What is attached to a letter: the rest, without an equals sign at its start. -/
def attachment? : List Char → Option String
  | [] => none
  | '=' :: rest => some (String.ofList rest)
  | rest => some (String.ofList rest)

/-- Uses the options of a row of letters. The first one that takes values takes the rest. -/
def useLetters (grammar : Grammar) : (letters : List Char) → Reading →
    Except ArgumentError Reading
  | [], reading => .ok reading
  | letter :: rest, reading =>
    match grammar.lettered? letter with
    | none => .error (.unknownArgument (String.ofList ['-', letter]))
    | some option =>
      if option.usage.takesValues then reading.useOption option (attachment? rest)
      else do useLetters grammar rest (← reading.use option [])

/-- Takes a word as the next operand. -/
def takeOperand (reading : Reading) (word : String) : Except ArgumentError Reading :=
  match reading.operands with
  | [] => .error (.unknownArgument word)
  | operand :: operands => do
    return { ← reading.await operand [word] with operands }

/-- Takes a word as a value of the option in use, or else as an operand. -/
def takeWord (reading : Reading) (word : String) : Except ArgumentError Reading :=
  match reading.pending with
  | some (parameter, items) =>
    if parameter.usage.hasRoom items.length then
      .ok { reading with pending := some (parameter, items ++ [word]) }
    else reading.takeOperand word
  | none => reading.takeOperand word

/-- Takes an argument that is no separator. -/
def take (grammar : Grammar) (reading : Reading) : Argument → Except ArgumentError Reading
  | .separator => .ok reading
  | .long name value? =>
    match grammar.named? name with
    | some option => reading.useOption option value?
    | none => .error (.unknownArgument ("--" ++ name))
  | .short letters => useLetters grammar letters reading
  | .word text => reading.takeWord text

def takeAll (grammar : Grammar) : (arguments : List String) → Reading →
    Except ArgumentError Reading
  | [], reading => .ok reading
  | argument :: rest, reading =>
    match Argument.ofText argument with
    | .separator => rest.foldlM takeOperand reading
    | other => do takeAll grammar rest (← reading.take grammar other)

/-- The values that the arguments of a command give to its parameters. -/
def read (grammar : Grammar) (env : Environment) (arguments : List String) :
    Except ArgumentError Values := do
  let reading ← takeAll grammar arguments { operands := grammar.operands }
  (← reading.settle).values.complete grammar env

end Reading

end AssetSeed.CommandLine
