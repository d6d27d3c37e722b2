/-!
# Failures of the asset database

## Main definitions

* `StoreError` — the classes of failure of a request.
* `StoreError.message`, `StoreError.kind` — the text of a failure and the name of its class.
-/

namespace AssetSeed

inductive StoreError where
  /-- The database could not be reached. -/
  | connectivity (detail : String)
  /-- The database refused the request. -/
  | rejected (status : Nat) (body : String)
  /-- The answer could not be understood. -/
  | malformedInput (detail : String)
  | unexpected (detail : String)
deriving Repr, DecidableEq, Inhabited

namespace StoreError

def message : StoreError → String
  | connectivity detail => "NetBox unreachable: " ++ detail
  | rejected status body => "NetBox rejected request (" ++ toString status ++ "): " ++ body
  | malformedInput detail => "malformed data: " ++ detail
  | unexpected detail => "unexpected NetBox error: " ++ detail

def kind : StoreError → String
  | connectivity _ => "Connectivity"
  | rejected _ _ => "Rejected"
  | malformedInput _ => "MalformedInput"
  | unexpected _ => "Unexpected"

def isRejected : StoreError → Bool
  | rejected _ _ => true
  | _ => false

end StoreError

end AssetSeed
