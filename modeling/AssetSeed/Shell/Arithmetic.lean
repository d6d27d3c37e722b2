import AssetSeed.Shell.Word

/-!
# Expressions over whole numbers

Values lie between -2^63 and 2^63 - 1 and wrap around.

## Main definitions

* `Expression.ofText?` — the expression that a text writes down.
* `Expression.evaluate?` — its value, and the values that it gives to variables.
-/

namespace AssetSeed.Shell

inductive Operator where
  | or | and | bitOr | bitXor | bitAnd | equal | unequal | atMost | atLeast | below | above
  | shiftLeft | shiftRight | plus | minus | times | divide | remainder
deriving Repr, DecidableEq

inductive Expression where
  | number (n : Int)
  | parameter (name : String)
  | negation (e : Expression)
  | complement (e : Expression)
  | inversion (e : Expression)
  | binary (op : Operator) (a b : Expression)
  | choice (test yes no : Expression)
  | assign (name : String) (e : Expression)
  /-- Adds a number to a variable, and has the value that it had before. -/
  | step (name : String) (delta : Int)
deriving Repr, DecidableEq

namespace Operator

/-- How an operator is written, those first that start like others. -/
def table : List (String × Operator) := [
  ("||", or), ("&&", and), ("<<", shiftLeft), (">>", shiftRight), ("==", equal), ("!=", unequal),
  ("<=", atMost), (">=", atLeast), ("|", bitOr), ("^", bitXor), ("&", bitAnd), ("<", below),
  (">", above), ("+", plus), ("-", minus), ("*", times), ("/", divide), ("%", remainder)]

/-- How closely an operator binds. -/
def level : Operator → Nat
  | or => 0
  | and => 1
  | bitOr => 2
  | bitXor => 3
  | bitAnd => 4
  | equal | unequal => 5
  | atMost | atLeast | below | above => 6
  | shiftLeft | shiftRight => 7
  | plus | minus => 8
  | times | divide | remainder => 9

/-- The operator at the start of a text, and what follows it. -/
def read? (s : List Char) : Option (Operator × List Char) :=
  (table.find? fun entry => entry.1.toList.isPrefixOf s).map fun (text, op) =>
    (op, s.drop text.length)

/-- A number as it is kept in 64 bits. -/
def wrapped (n : Int) : Int :=
  (BitVec.ofInt 64 n).toInt

def bits (n : Int) : Nat :=
  (BitVec.ofInt 64 n).toNat

def ofBool (b : Bool) : Int :=
  if b then 1 else 0

def combine? (op : Operator) (a b : Int) : Option Int :=
  match op with
  | or => some (ofBool (a ≠ 0 || b ≠ 0))
  | and => some (ofBool (a ≠ 0 && b ≠ 0))
  | bitOr => some (wrapped (bits a ||| bits b))
  | bitXor => some (wrapped (bits a ^^^ bits b))
  | bitAnd => some (wrapped (bits a &&& bits b))
  | equal => some (ofBool (a = b))
  | unequal => some (ofBool (a ≠ b))
  | atMost => some (ofBool (a ≤ b))
  | atLeast => some (ofBool (a ≥ b))
  | below => some (ofBool (a < b))
  | above => some (ofBool (a > b))
  | shiftLeft => some (wrapped (a * Int.ofNat (1 <<< (bits b % 64))))
  | shiftRight => some (a / Int.ofNat (1 <<< (bits b % 64)))
  | plus => some (wrapped (a + b))
  | minus => some (wrapped (a - b))
  | times => some (wrapped (a * b))
  | divide => if b = 0 then none else some (wrapped (a.tdiv b))
  | remainder => if b = 0 then none else some (a.tmod b)

end Operator

namespace Expression

abbrev Read := Option (Expression × List Char)

def skipBlanks (s : List Char) : List Char :=
  s.dropWhile Text.isBlank

/-- A numeral in decimal, in hexadecimal behind `0x` or in octal behind a zero. -/
def numeral? (s : List Char) : Option Int :=
  match s with
  | '0' :: x :: digits =>
    if x = 'x' || x = 'X' then
      if !digits.isEmpty && digits.all Text.isHexDigit then
        some (Text.numeralValue 16 Text.hexValue digits)
      else none
    else if (x :: digits).all fun c => '0' ≤ c && c ≤ '7' then
      some (Text.numeralValue 8 Text.digitValue (x :: digits))
    else none
  | digits =>
    if !digits.isEmpty && digits.all Text.isDigit then some (Text.decimalValue digits) else none

/-- The operator of an assignment at the start of a text, if it has one, and what follows it. -/
def assignment? (s : List Char) : Option (Option Operator × List Char) :=
  match Operator.read? s with
  | some (op, rest) =>
    if ['='].isPrefixOf rest && op.level ≠ 5 && op.level ≠ 6 && op.level > 1 then
      some (some op, rest.drop 1)
    else none
  | none => if ['='].isPrefixOf s then some (none, s.drop 1) else none

mutual

/-- `steps` says whether a variable can be counted up and down. -/
def readUnary (steps : Bool) : (fuel : Nat) → List Char → Read
  | 0, _ => none
  | fuel + 1, s =>
    match skipBlanks s with
    | '(' :: rest => do
      let (e, rest) ← readWhole steps fuel rest
      match skipBlanks rest with
      | ')' :: rest => some (e, rest)
      | _ => none
    | '-' :: rest => (readUnary steps fuel rest).map fun (e, rest) => (.negation e, rest)
    | '+' :: rest => readUnary steps fuel rest
    | '~' :: rest => (readUnary steps fuel rest).map fun (e, rest) => (.complement e, rest)
    | '!' :: rest => (readUnary steps fuel rest).map fun (e, rest) => (.inversion e, rest)
    | c :: rest =>
      let name := (c :: rest).takeWhile isNameChar
      let after := (c :: rest).dropWhile isNameChar
      if Text.isDigit c then (numeral? name).map fun n => (.number n, after)
      else if isNameStart c then
        match steps, after with
        | true, '+' :: '+' :: after => some (.step (String.ofList name) 1, after)
        | true, '-' :: '-' :: after => some (.step (String.ofList name) (-1), after)
        | _, _ => some (.parameter (String.ofList name), after)
      else none
    | [] => none

/-- What operators that bind at least as closely as `level` make of an expression. -/
def readChain (steps : Bool) : (fuel : Nat) → (level : Nat) → Expression → List Char → Read
  | 0, _, _, _ => none
  | fuel + 1, level, first, s =>
    match Operator.read? (skipBlanks s) with
    | some (op, rest) =>
      if op.level < level then some (first, s)
      else do
        let (second, rest) ← readUnary steps fuel rest
        let (second, rest) ← readChain steps fuel (op.level + 1) second rest
        readChain steps fuel level (.binary op first second) rest
    | none => some (first, s)

def readWhole (steps : Bool) : (fuel : Nat) → List Char → Read
  | 0, _ => none
  | fuel + 1, s => do
    let (first, rest) ← readUnary steps fuel s
    match first, assignment? (skipBlanks rest) with
    | .parameter name, some (op, rest) =>
      let (e, rest) ← readWhole steps fuel rest
      some (.assign name (match op with
        | some op => .binary op first e
        | none => e), rest)
    | _, _ =>
      let (test, rest) ← readChain steps fuel 0 first rest
      match skipBlanks rest with
      | '?' :: rest =>
        let (yes, rest) ← readWhole steps fuel rest
        match skipBlanks rest with
        | ':' :: rest =>
          let (no, rest) ← readWhole steps fuel rest
          some (.choice test yes no, rest)
        | _ => none
      | _ => some (test, rest)

end

/-- The expression of a text of which nothing is left over. An empty text counts as zero. -/
def ofText? (steps : Bool) (s : List Char) : Option Expression :=
  if (skipBlanks s).isEmpty then some (.number 0)
  else do
    let (e, rest) ← readWhole steps (4 * s.length + 8) s
    if (skipBlanks rest).isEmpty then some e else none

/-- The values that variables were given, the last ones first. -/
abbrev Given := List (String × Int)

/-- The value of a variable. One that is missing or empty counts as zero, and so does one that is no
numeral if `lenient` says so. -/
def valueOf? (lookup : String → Option String) (lenient : Bool) (given : Given) (name : String) :
    Option Int :=
  match given.lookup name with
  | some n => some n
  | none =>
    let value := Text.trim ((lookup name).getD "").toList
    let n? := match value with
      | [] => some 0
      | '-' :: digits => (numeral? digits).map (-·)
      | '+' :: digits => numeral? digits
      | digits => numeral? digits
    n?.or (if lenient then some 0 else none)

/-- The value, and the values given to variables on the way. -/
def evaluate? (lookup : String → Option String) (lenient : Bool) :
    Expression → Given → Option (Int × Given)
  | .number n, given => some (Operator.wrapped n, given)
  | .parameter name, given => (valueOf? lookup lenient given name).map (·, given)
  | .negation e, given => do
    let (n, given) ← evaluate? lookup lenient e given
    some (Operator.wrapped (-n), given)
  | .complement e, given => do
    let (n, given) ← evaluate? lookup lenient e given
    some (-n - 1, given)
  | .inversion e, given => do
    let (n, given) ← evaluate? lookup lenient e given
    some (Operator.ofBool (n = 0), given)
  | .binary op a b, given => do
    let (m, given) ← evaluate? lookup lenient a given
    if (op = .or && m ≠ 0) || (op = .and && m = 0) then some (Operator.ofBool (m ≠ 0), given)
    else
      let (n, given) ← evaluate? lookup lenient b given
      some (← op.combine? m n, given)
  | .choice test yes no, given => do
    let (n, given) ← evaluate? lookup lenient test given
    if n ≠ 0 then evaluate? lookup lenient yes given else evaluate? lookup lenient no given
  | .assign name e, given => do
    let (n, given) ← evaluate? lookup lenient e given
    some (n, (name, n) :: given)
  | .step name k, given => do
    let n ← valueOf? lookup lenient given name
    some (n, (name, n + k) :: given)

end Expression

end AssetSeed.Shell
