import AssetSeed.Proofs.Reconcile.Indices
import AssetSeed.Proofs.Stage.Missing

/-!
# Which permissions are asked for

Nothing is assumed about the database here. In view of the object types and the permissions that it
lists, and of the groups that are known, the permissions that are asked for are determined, up to
the first failure.

## Main definitions

* `PermissionSpec.grant` — the permission that a group is due.
* `Catalog.grants` — the permissions that the groups of a catalog are due.
* `Reconcile.Permitting` — the law of what is said of permissions.

## Main statements

* `Reconcile.exchanges_permitting` — a stage obeys the law, whoever answers.
-/

namespace AssetSeed

/-- The permission that a group is due over object types. It is for the group alone, and for nobody
if the group is not known. -/
def PermissionSpec.grant (groups : NameIndex) (group : String) (types : List String) :
    Draft.Permission where
  name := nameFor group
  enabled := true
  groups := (groups.get? group).toList
  actions := ["view", "add", "change", "delete"]
  objectTypes := types

theorem PermissionSpec.nameFor_ne_empty (group : String) : nameFor group ≠ "" := by
  intro h
  have lengths := congrArg String.length h
  simp [nameFor] at lengths

theorem PermissionSpec.nameFor_inj {group other : String} :
    nameFor group = nameFor other ↔ group = other := by
  simp [nameFor]

open PermissionSpec

/-- The permissions that the groups of a catalog are due when object types are there. A default
group of its own may not administer users. -/
def Catalog.grants (catalog : Catalog) (groups : NameIndex) (types : List String) :
    List Draft.Permission :=
  if catalog.defaultGroup = catalog.staffGroup then [grant groups catalog.staffGroup types]
  else [grant groups catalog.staffGroup types,
    grant groups catalog.defaultGroup (types.filter (· ∉ administration))]

namespace Reconcile

variable {catalog : Catalog} {groups existing : NameIndex} {types : List String}

theorem draft_forGroup (group : String) (excluded : List String) :
    (forGroup group excluded).draft groups types =
      grant groups group (types.filter (· ∉ excluded)) := by
  have resolved : [group].filterMap groups.get? = (groups.get? group).toList := by
    cases h : groups.get? group <;> simp [h]
  simp [PermissionSpec.draft, forGroup, grant, resolved]

theorem wantedPermissions_eq : wantedPermissions catalog groups types =
    [(nameFor catalog.staffGroup, grant groups catalog.staffGroup types),
      (nameFor catalog.defaultGroup,
        grant groups catalog.defaultGroup (types.filter (· ∉ administration)))] := by
  have everything : types.filter (· ∉ ([] : List String)) = types :=
    List.filter_eq_self.2 fun _ _ => by simp
  simp only [wantedPermissions, ofCatalog, List.map_cons, List.map_nil, draft_forGroup, everything]
  rfl

/-- Of what the catalog wants, a loop asks for what is due and not there. -/
theorem missing_wantedPermissions :
    (Stage.missing .permission existing [] (wantedPermissions catalog groups types)).map Prod.snd =
      (catalog.grants groups types).filter fun draft => !existing.contains draft.name := by
  have name (group : String) (types : List String) :
      (grant groups group types).name = nameFor group := rfl
  have nonempty (group : String) : (nameFor group).isEmpty = false := by
    simp [nameFor_ne_empty]
  have attempted : nameFor catalog.defaultGroup = nameFor catalog.staffGroup ↔
      catalog.defaultGroup = catalog.staffGroup := nameFor_inj
  rw [wantedPermissions_eq, Catalog.grants]
  by_cases same : catalog.defaultGroup = catalog.staffGroup <;>
    cases staff : existing.contains (nameFor catalog.staffGroup) <;>
    simp [Stage.missing, List.filter_cons, apply_ite, same, staff, name, nonempty, attempted]

theorem nodup_grants : ((catalog.grants groups types).map (·.name)).Nodup := by
  rw [Catalog.grants]
  split
  · simp
  · next ne =>
    have names : nameFor catalog.staffGroup ≠ nameFor catalog.defaultGroup :=
      fun h => ne (nameFor_inj.1 h).symm
    simpa [grant] using names

/-- The law of what is said of permissions: they are asked for in view of the object types and of
the permissions that have been listed. A listing that fails is the last thing said. -/
def Permitting (catalog : Catalog) (groups : NameIndex) (said : Transcript) : Prop :=
  (∃ e, said = [⟨.list .objectType, .error e⟩]) ∨
  (∃ types e, said = [⟨.list .objectType, .ok types⟩, ⟨.list .permission, .error e⟩]) ∨
  ∃ types listed own,
    said = ⟨.list .objectType, .ok types⟩ :: ⟨.list .permission, .ok listed⟩ :: own ∧
    Stage.Supplies .permission ((catalog.grants groups (types.map (·.qualifiedName))).filter
      fun draft => draft.name ∉ listed.map (·.name)) own

theorem Permitting.nodup {said : Transcript} (h : Permitting catalog groups said) :
    ((said.drafts .permission).map (·.name)).Nodup := by
  obtain ⟨e, rfl⟩ | ⟨types, e, rfl⟩ | ⟨types, listed, own, rfl, supplies⟩ := h
  · exact List.nodup_nil
  · exact List.nodup_nil
  · have due := supplies.sent.sublist.trans List.filter_sublist
    exact nodup_grants.sublist (due.map _)

theorem permitting_ensurePermissions (report : StageReport) :
    (ensurePermissions catalog groups).Ensures Conduct.recorded
      (fun _ _ said => Permitting catalog groups said) report [] := by
  refine Stage.ensures_bind.2 (Stage.ensures_demand.2 ?_)
  rintro (e | types) _ rfl
  · exact .inl ⟨e, rfl⟩
  · refine (Stage.supplies_ensure report _).mono ?_
    rintro _ _ _ (⟨e, rfl⟩ | ⟨listed, own, rfl, supplies⟩)
    · exact .inr (.inl ⟨types, e, rfl⟩)
    · refine .inr (.inr ⟨types, listed, own, rfl, ?_⟩)
      have absent (name : String) :
          (!(Index.ofList (Stage.keyPairs .permission listed)).contains name) =
            decide (name ∉ listed.map (·.name)) := by
        rw [Bool.eq_iff_iff, Bool.not_eq_true', ← Bool.not_eq_true, Stage.contains_keyPairs]
        simp [Kind.key?]
      rw [missing_wantedPermissions] at supplies
      simpa only [absent] using supplies

/-- Whoever answers, the permissions that are asked for are due and were not there, and no two of
them have one name. -/
theorem exchanges_permitting {σ : Type} (respond : Responder StoreProtocol σ) (s : σ)
    (catalog : Catalog) (groups : NameIndex) :
    Permitting catalog groups
      (((ensurePermissions catalog groups).perform .permission).exchanges respond s) ∧
    ((Transcript.drafts (((ensurePermissions catalog groups).perform .permission).exchanges respond s)
      .permission).map (·.name)).Nodup := by
  have permitting : Permitting catalog groups
      (((ensurePermissions catalog groups).perform .permission).exchanges respond s) :=
    (permitting_ensurePermissions { stage := .permission }).exchanges s
  exact ⟨permitting, permitting.nodup⟩

end Reconcile

end AssetSeed
