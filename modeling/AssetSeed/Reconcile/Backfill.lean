import AssetSeed.Reconcile.Stage

/-!
# The stage of prefix descriptions

Older databases kept the label of a prefix on its VRF. The stage copies it into each prefix whose
own description is empty, and goes on whatever a change returns.
-/

namespace AssetSeed.Reconcile

/-- The description that a prefix is to get: the label of its VRF, if its own is empty. -/
def description? (network : Record.IpPrefix) : Option String :=
  if network.description.isEmpty then
    (network.vrf.map Record.Reference.label).filter (!·.isEmpty)
  else none

def describePrefixes : List Record.IpPrefix → Stage Unit
  | [] => pure ()
  | network :: rest => do
    match description? network with
    | none => pure ()
    | some description =>
      match ← Stage.ask (.describe network.id description) with
      | .ok _ => Stage.noteUpdated
      | .error _ => Stage.noteSkipped
    describePrefixes rest

def backfillDescriptions : Stage Unit := do
  describePrefixes (← Stage.demand .listUndescribed)

end AssetSeed.Reconcile
