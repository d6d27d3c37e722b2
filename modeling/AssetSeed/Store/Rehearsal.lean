import AssetSeed.Record.Codec
import AssetSeed.Store.Memory

/-!
# Rehearsals

A database in memory that keeps a record of the requests, fails where it is told to, and shows
records in its listings that it does not hold.

## Main definitions

* `StoreRequest.encode` — a request as it is recorded.
* `Fault` — a failure and the requests that meet it.
* `Rehearsal` — the database with its faults.
* `Rehearsal.respond` — the answer to a request.
-/

namespace AssetSeed

namespace StoreRequest

/-- A change of a record: its identifier and what is sent. -/
def encodeChange (id : Int) (body : Json) : Json :=
  .object [("id", .integer id), ("body", body)]

/-- What is sent with a request. -/
def payload? : StoreRequest → Option Json
  | list _ => none
  | listUndescribed => none
  | create kind draft => some (kind.encodeDraft draft)
  | describe id description => some (encodeChange id (Draft.encodeDescription description))
  | setPrimary device address => some (encodeChange device address.encode)

def encode (request : StoreRequest) : Json :=
  .array (.text request.name :: request.payload?.toList)

end StoreRequest

structure Fault where
  /-- The name of the requests that meet the fault. -/
  on : String
  /-- What the request has to be about, if that matters. -/
  key : Option String := none
  /-- How many requests pass before the first one fails. -/
  skip : Nat := 0
  /-- How many requests fail; without a number, all of them. -/
  times : Option Nat := none
  error : StoreError
deriving Repr, DecidableEq

namespace Fault

def concerns (fault : Fault) (request : StoreRequest) : Bool :=
  request.name = fault.on && fault.key.all (· = request.subject)

/-- What a request meets at a fault that concerns it, and the fault as it is left. -/
def strike (fault : Fault) : Option StoreError × Fault :=
  match fault.skip, fault.times with
  | skip + 1, _ => (none, { fault with skip })
  | 0, some 0 => (none, fault)
  | 0, some (times + 1) => (some fault.error, { fault with times := some times })
  | 0, none => (some fault.error, fault)

/-- The first failure that a request meets. Faults behind it do not take notice of the request. -/
def meet (request : StoreRequest) : List Fault → Option StoreError × List Fault
  | [] => (none, [])
  | fault :: rest =>
    if fault.concerns request then
      match fault.strike with
      | (some error, fault) => (some error, fault :: rest)
      | (none, fault) => let (met, rest) := meet request rest; (met, fault :: rest)
    else
      let (met, rest) := meet request rest
      (met, fault :: rest)

end Fault

structure Rehearsal where
  store : MemoryStore
  faults : List Fault := []
  /-- Records that only listings show. -/
  extras : List (Kind × Json) := []
  /-- The requests so far. -/
  requests : List StoreRequest := []
deriving Inhabited

namespace Rehearsal

def badExtra : StoreError :=
  .malformedInput "extra record"

def extraRecords (rehearsal : Rehearsal) (kind : Kind) : Except StoreError (List kind.Record) :=
  let values := (rehearsal.extras.filter fun extra => extra.1 = kind).map (·.2)
  match values.mapM (decode? (α := kind.Record)) with
  | some records => .ok records
  | none => .error badExtra

/-- The answer with the extra records, if it is a listing. -/
def complete (rehearsal : Rehearsal) : (request : StoreRequest) →
    Except StoreError request.Reply → Except StoreError request.Reply
  | .list kind, answer => do return (← answer) ++ (← rehearsal.extraRecords kind)
  | .listUndescribed, answer => do return (← answer) ++ (← rehearsal.extraRecords .ipPrefix)
  | .create _ _, answer => answer
  | .describe _ _, answer => answer
  | .setPrimary _ _, answer => answer

def respond : Responder StoreProtocol Rehearsal := fun request rehearsal =>
  let (met, faults) := Fault.meet request rehearsal.faults
  let rehearsal := { rehearsal with faults, requests := rehearsal.requests ++ [request] }
  match met with
  | some error => (.error error, rehearsal)
  | none =>
    let (answer, store) := rehearsal.store.respond request
    (rehearsal.complete request answer, { rehearsal with store })

end Rehearsal

end AssetSeed
