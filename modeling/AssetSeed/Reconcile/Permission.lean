import AssetSeed.Catalog
import AssetSeed.Index
import AssetSeed.Record.Draft

/-!
# Permissions of the two groups

## Main definitions

* `PermissionSpec` — a permission with groups by name.
* `PermissionSpec.ofCatalog` — staff may do anything, others anything but administer users.
* `PermissionSpec.draft` — the permission with groups by identifier.
-/

namespace AssetSeed

structure PermissionSpec where
  name : String
  groups : List String
  actions : List String
  /-- The object types that the permission does not cover. -/
  excluded : List String
deriving Repr, DecidableEq

namespace PermissionSpec

/-- The object types of user administration. -/
def administration : List String :=
  ["admin.logentry", "auth.group", "auth.permission", "auth.user", "users.admingroup",
    "users.adminuser", "users.objectpermission", "users.token", "users.userconfig"]

def nameFor (group : String) : String :=
  group ++ "_permission"

def forGroup (group : String) (excluded : List String) : PermissionSpec where
  name := nameFor group
  groups := [group]
  actions := ["view", "add", "change", "delete"]
  excluded := excluded

def ofCatalog (catalog : Catalog) : List PermissionSpec :=
  [forGroup catalog.staffGroup [], forGroup catalog.defaultGroup administration]

/-- The permission as it is sent: without the groups that the index lacks, and for all of
`objectTypes` that are not excluded. -/
def draft (spec : PermissionSpec) (groups : NameIndex) (objectTypes : List String) :
    Draft.Permission where
  name := spec.name
  enabled := true
  groups := spec.groups.filterMap groups.get?
  actions := spec.actions
  objectTypes := objectTypes.filter fun type => !spec.excluded.contains type

end PermissionSpec

end AssetSeed
