/-!
# JSON values

Objects keep their fields in the order in which they were written, repetitions included.

## Main definitions

* `Json` — the values.
* `Json.depth` — how deeply arrays and objects are nested.
* `Json.isFaithful` — nothing in the value was lost when it was read.
-/

namespace AssetSeed

inductive Json where
  | null
  | bool (b : Bool)
  | integer (n : Int)
  /-- A number written with a fraction or an exponent, or as a negative zero. -/
  | real (literal : String)
  | text (s : String)
  | array (items : List Json)
  | object (fields : List (String × Json))
  /-- What is well formed and yet stands for nothing: a number beyond the range of floating point,
  a text with half a surrogate pair. -/
  | unrepresentable
deriving Repr, Inhabited

namespace Json

mutual

def depth : Json → Nat
  | .array items => depthOfItems items + 1
  | .object fields => depthOfFields fields + 1
  | _ => 0

def depthOfItems : List Json → Nat
  | [] => 0
  | item :: rest => max item.depth (depthOfItems rest)

def depthOfFields : List (String × Json) → Nat
  | [] => 0
  | (_, value) :: rest => max value.depth (depthOfFields rest)

end

mutual

def isFaithful : Json → Bool
  | .array items => areFaithful items
  | .object fields => areFaithfulFields fields
  | .unrepresentable => false
  | _ => true

def areFaithful : List Json → Bool
  | [] => true
  | item :: rest => item.isFaithful && areFaithful rest

def areFaithfulFields : List (String × Json) → Bool
  | [] => true
  | (_, value) :: rest => value.isFaithful && areFaithfulFields rest

end

/-- The value of a key; of several, the last. -/
def lastField? (key : String) (fields : List (String × Json)) : Option Json :=
  (fields.reverse.find? fun field => field.1 = key).map (·.2)

def text? : Json → Option String
  | .text s => some s
  | _ => none

def bool? : Json → Option Bool
  | .bool b => some b
  | _ => none

/-- An integer that fits 32 bits with a sign. -/
def int32? : Json → Option Int
  | .integer n => if -2147483648 ≤ n && n ≤ 2147483647 then some n else none
  | _ => none

end Json

end AssetSeed
