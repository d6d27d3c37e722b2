import AssetSeed.Shell.Utility

/-!
# Conditions

## Main definitions

* `condition?` — whether a condition holds.
* `test`, `bracket` — the commands that say so.
-/

namespace AssetSeed.Shell

open Text

/-- The whole number that is written with nothing but blanks around it. -/
def wholeNumber? (text : String) : Option Int :=
  match trim text.toList with
  | '-' :: digits => (natural? (1 <<< 63) digits).map (-Int.ofNat ·)
  | digits => (natural? (1 <<< 63) digits).map Int.ofNat

/-- What a test with one argument finds out. -/
def unaryTest? (session : Session) (operator text : String) : Option Bool :=
  let entry? := (session.disk.find ⟨text⟩).toOption
  match operator with
  | "-n" => some !text.isEmpty
  | "-z" => some text.isEmpty
  | "-e" | "-a" | "-r" | "-w" => some entry?.isSome
  | "-f" => some (session.disk.isFile ⟨text⟩)
  | "-d" => some (session.disk.isDir ⟨text⟩)
  | "-s" => some (match entry? with
    | some (.file held) => !held.content.isEmpty
    | other => other.isSome)
  | "-x" => some (match entry? with
    | some (.file held) => held.executable
    | other => other.isSome)
  | "-h" | "-L" => some (match session.disk.named? ⟨text⟩ with
    | some (.link _) => true
    | _ => false)
  | "-t" | "-b" | "-c" | "-p" | "-S" | "-g" | "-k" | "-u" => some false
  | "-O" | "-G" => some entry?.isSome
  | _ => none

/-- What a test with two arguments finds out; the inner result is missing if it cannot be told. -/
def binaryTest? (operator a b : String) : Option (Option Bool) :=
  let numbers (holds : Int → Int → Bool) : Option Bool := do
    return holds (← wholeNumber? a) (← wholeNumber? b)
  match operator with
  | "=" | "==" => some (some (a = b))
  | "!=" => some (some (a ≠ b))
  | "<" => some (some (a < b))
  | ">" => some (some (b < a))
  | "-eq" => some (numbers fun m n => m = n)
  | "-ne" => some (numbers fun m n => m ≠ n)
  | "-lt" => some (numbers fun m n => m < n)
  | "-le" => some (numbers fun m n => m ≤ n)
  | "-gt" => some (numbers fun m n => m > n)
  | "-ge" => some (numbers fun m n => m ≥ n)
  | "-a" => some (some (!a.isEmpty && !b.isEmpty))
  | "-o" => some (some (!a.isEmpty || !b.isEmpty))
  | _ => none

/-- Whether a condition holds, if it is one; `fuel` bounds its length. -/
def condition? (session : Session) : (fuel : Nat) → List String → Option Bool
  | 0, _ => none
  | fuel + 1, arguments =>
    match arguments with
    | [] => some false
    | [text] => some !text.isEmpty
    | ["!", text] => some text.isEmpty
    | [operator, text] => unaryTest? session operator text
    | [a, operator, b] =>
      match binaryTest? operator a b with
      | some result => result
      | none =>
        if a = "!" then (condition? session fuel [operator, b]).map not
        else if a = "(" && b = ")" then condition? session fuel [operator]
        else none
    | ["!", a, b, c] => (condition? session fuel [a, b, c]).map not
    | arguments =>
      match cut? "-o" arguments, cut? "-a" arguments with
      | some (left, right), _ => do
        return (← condition? session fuel left) || (← condition? session fuel right)
      | none, some (left, right) => do
        return (← condition? session fuel left) && (← condition? session fuel right)
      | none, none =>
        match arguments with
        | "!" :: rest => (condition? session fuel rest).map not
        | "(" :: rest =>
          if rest.getLast? = some ")" then condition? session fuel rest.dropLast else none
        | _ => none

def test : Utility := fun arguments session =>
  match condition? session (arguments.length + 1) arguments with
  | some true => session.returns 0
  | some false => session.returns 1
  | none => session.complain 2 "test: unexpected operator"

def bracket : Utility := fun arguments session =>
  if arguments.getLast? = some "]" then test arguments.dropLast session
  else session.complain 2 "[: missing ]"

end AssetSeed.Shell
