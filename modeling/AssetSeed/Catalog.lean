/-!
# Catalogs

The names of what an asset database is to hold.

## Main definitions

* `Catalog` — the names.
* `Catalog.defaultSite?` — the site that fixtures are made for.
-/

namespace AssetSeed

structure Catalog where
  sites : List String := []
  manufacturers : List String := []
  roles : List String := []
  deviceTypes : List String := []
  /-- The group whose members may do anything. -/
  staffGroup : String := ""
  /-- The group whose members may do anything but administer users. -/
  defaultGroup : String := ""
deriving Repr, DecidableEq, Inhabited

def Catalog.defaultSite? (catalog : Catalog) : Option String :=
  catalog.sites.head?

end AssetSeed
