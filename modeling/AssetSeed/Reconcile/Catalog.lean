import AssetSeed.Palette
import AssetSeed.Reconcile.Permission
import AssetSeed.Reconcile.Stage
import AssetSeed.Text.Slug

/-!
# The stages of the catalog

One stage for each kind of record that a catalog names. A reference that nobody named goes to the
record with the lowest identifier.
-/

namespace AssetSeed.Reconcile

open Text (slug)

def ensureGroups (catalog : Catalog) : Stage NameIndex :=
  Stage.ensure .group fun _ =>
    [catalog.staffGroup, catalog.defaultGroup].map fun name => (name, { name })

/-- The drafts of the two permissions, with the names that they are created under. -/
def wantedPermissions (catalog : Catalog) (groups : NameIndex) (objectTypes : List String) :
    List (String × Draft.Permission) :=
  (PermissionSpec.ofCatalog catalog).map fun spec => (spec.name, spec.draft groups objectTypes)

def ensurePermissions (catalog : Catalog) (groups : NameIndex) : Stage NameIndex := do
  let types ← Stage.demand (.list .objectType)
  let objectTypes := types.map Record.ObjectType.qualifiedName
  Stage.ensure .permission fun _ => wantedPermissions catalog groups objectTypes

def ensureManufacturers (names : List String) : Stage NameIndex :=
  Stage.ensure .manufacturer fun _ => names.map fun name => (name, { name, slug := slug name })

/-- Draws a colour for every name that is not in the index yet, whether it will be needed or not. -/
def ensureRoles (names : List String) (palette : Palette) : Stage NameIndex :=
  Stage.ensure .role fun existing =>
    (palette.paint (names.filter fun name => !existing.contains name)).map fun (name, color) =>
      (name, { name, slug := slug name, vmRole := true, color })

def ensureDeviceTypes (models : List String) (manufacturers : NameIndex) : Stage NameIndex :=
  Stage.ensure .deviceType fun _ => models.map fun model =>
    (model, { manufacturer := manufacturers.lowest?, model, slug := slug model })

def ensureSites (names : List String) : Stage NameIndex :=
  Stage.ensure .site fun _ => names.map fun name =>
    (name, { name, slug := slug name, status := "active" })

end AssetSeed.Reconcile
