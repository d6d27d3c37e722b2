import AssetSeed.Store.Protocol

/-!
# What is said to a database

## Main definitions

* `Transcript` — requests with their answers.
* `StoreRequest.tolerates` — the failures after which a stage goes on.
* `StoreRequest.creates?` — the kind of the record that is to be created.
* `Exchange.fatal?`, `Exchange.refusal?` — the failure that ends a stage, the refusal that is noted.
* `Exchange.isCreated`, `Exchange.isPointed`, … — what a report counts.
* `Transcript.createdKeys`, `Transcript.createdIds` — the records that have been created.
-/

namespace AssetSeed

abbrev Transcript := List (Exchange StoreProtocol)

namespace StoreRequest

/-- Whether a stage goes on after the request has failed with the error. -/
def tolerates : StoreRequest → StoreError → Bool
  | .list _, _ => false
  | .listUndescribed, _ => false
  | .create _ _, e => e.isRejected
  | .describe _ _, _ => true
  | .setPrimary _ _, e => e.isRejected

def isListing : StoreRequest → Bool
  | .list _ => true
  | .listUndescribed => true
  | _ => false

/-- Whether a rejection of the request is noted. -/
def isNoted : StoreRequest → Bool
  | .create _ _ => true
  | .setPrimary _ _ => true
  | _ => false

/-- The kind of the record that is to be created, if one is. -/
def creates? : StoreRequest → Option Kind
  | .create kind _ => some kind
  | _ => none

end StoreRequest

namespace Exchange

/-- The failure that ends the stage in which the request was put. -/
def fatal? : Exchange StoreProtocol → Option StoreError
  | ⟨_, .ok _⟩ => none
  | ⟨request, .error error⟩ => if request.tolerates error then none else some error

/-- The rejection of a create, or of the choice of a primary address. -/
def refusal? : Exchange StoreProtocol → Option StoreError
  | ⟨_, .ok _⟩ => none
  | ⟨request, .error error⟩ => if request.isNoted && error.isRejected then some error else none

@[simp] def isCreated : Exchange StoreProtocol → Bool
  | ⟨.create _ _, .ok _⟩ => true
  | _ => false

/-- Whether a primary address was set. -/
@[simp] def isPointed : Exchange StoreProtocol → Bool
  | ⟨.setPrimary _ _, .ok _⟩ => true
  | _ => false

/-- Whether a prefix was given a description. -/
@[simp] def isDescribed : Exchange StoreProtocol → Bool
  | ⟨.describe _ _, .ok _⟩ => true
  | _ => false

/-- Whether a prefix could not be given its description. -/
@[simp] def isUndescribed : Exchange StoreProtocol → Bool
  | ⟨.describe _ _, .error _⟩ => true
  | _ => false

/-- The key of the draft, if a record of the kind was created from it. -/
def createdKey? (kind : Kind) : Exchange StoreProtocol → Option String
  | ⟨.create other draft, .ok _⟩ => if other = kind then some (other.draftKey draft) else none
  | _ => none

/-- The identifier of the record, if one of the kind was created. -/
def createdId? (kind : Kind) : Exchange StoreProtocol → Option Int
  | ⟨.create other _, .ok r⟩ => if other = kind then some (other.id r) else none
  | _ => none

/-- Whether an interface was asked for, for the device. -/
def isAttached (device : Int) : Exchange StoreProtocol → Bool
  | ⟨.create .interface draft, _⟩ => draft.device = device
  | _ => false

end Exchange

namespace Transcript

/-- The keys of the drafts of a kind that records were created from, in order. -/
def createdKeys (said : Transcript) (kind : Kind) : List String :=
  said.filterMap (Exchange.createdKey? kind)

/-- The identifiers of the records of a kind that were created, in order. -/
def createdIds (said : Transcript) (kind : Kind) : List Int :=
  said.filterMap (Exchange.createdId? kind)

theorem createdKeys_append (said said' : Transcript) (kind : Kind) :
    createdKeys (said ++ said') kind = said.createdKeys kind ++ said'.createdKeys kind :=
  List.filterMap_append

theorem createdIds_append (said said' : Transcript) (kind : Kind) :
    createdIds (said ++ said') kind = said.createdIds kind ++ said'.createdIds kind :=
  List.filterMap_append

theorem createdKeys_create {kind : Kind} (draft : kind.Draft)
    (answer : Except StoreError kind.Record) :
    createdKeys [⟨.create kind draft, answer⟩] kind =
      if answer.isOk then [kind.draftKey draft] else [] := by
  cases answer <;> simp [createdKeys, Exchange.createdKey?, Except.isOk, Except.toBool]

theorem createdKeys_eq_nil {kind : Kind} {request : StoreRequest}
    {answer : Except StoreError request.Reply} (spared : request.creates? ≠ some kind) :
    createdKeys [⟨request, answer⟩] kind = [] := by
  cases request with
  | create other draft =>
    have ne : other ≠ kind := fun h => spared (congrArg some h)
    cases answer <;> simp [createdKeys, Exchange.createdKey?, ne]
  | _ => rfl

end Transcript

end AssetSeed
