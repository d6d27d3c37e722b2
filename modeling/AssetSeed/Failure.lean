import AssetSeed.Files.Error
import AssetSeed.Store.Error

/-!
# Failures

A failure has a cause and the contexts in which it was met, the outermost first.

## Main definitions

* `Cause`, `Failure` — causes and failures.
* `Failure.message` — contexts and cause in one line.
* `Failure.kind` — the class that a failure is reported under.
-/

namespace AssetSeed

inductive Cause where
  | store (error : StoreError)
  /-- A text that is not JSON. -/
  | json (detail : String)
  | file (error : FileError)
  | other (detail : String)
deriving Repr, DecidableEq, Inhabited

namespace Cause

def message : Cause → String
  | store error => error.message
  | json detail => detail
  | file error => error.message
  | other detail => detail

/-- Files and texts that cannot be read count as malformed input. -/
def kind : Cause → String
  | store error => error.kind
  | json _ => "MalformedInput"
  | file _ => "MalformedInput"
  | other _ => "Unexpected"

end Cause

structure Failure where
  cause : Cause
  contexts : List String := []
deriving Repr, DecidableEq, Inhabited

namespace Failure

def ofStore (error : StoreError) : Failure :=
  { cause := .store error }

/-- What came of a file operation that was made in a context. -/
def ofFile {α : Type} (context : String) : Except FileError α → Except Failure α
  | .ok value => .ok value
  | .error e => .error { cause := .file e, contexts := [context] }

/-- The failure met in one more context. -/
def within (context : String) (failure : Failure) : Failure :=
  { failure with contexts := context :: failure.contexts }

def message (failure : Failure) : String :=
  ": ".intercalate (failure.contexts ++ [failure.cause.message])

/-- What stands first in the message. -/
def outermost (failure : Failure) : String :=
  failure.contexts.head?.getD failure.cause.message

def kind (failure : Failure) : String :=
  failure.cause.kind

def storeError? (failure : Failure) : Option StoreError :=
  match failure.cause with
  | .store error => some error
  | _ => none

end Failure

end AssetSeed
