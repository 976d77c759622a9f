import PbxTemplates.Endpoint.Catalog
import PbxTemplates.SortedMap

/-!
# Items and the owner table

An item says who owns an endpoint. The owner table is drawn up before any endpoint is built, so a
template with an owner or an endpoint with two is reported whatever else is wrong.
-/

namespace PbxTemplates

/-- An owner and the endpoint that it owns. -/
@[ext] structure Item where
  /-- The id of the endpoint. -/
  endpoint : String
  owner : Owner
deriving DecidableEq

abbrev OwnerTable := SortedMap String Owner

namespace OwnerTable

def isTemplate (c : Catalog) (id : String) : Bool := (c.get? id).any (·.isTemplate)

/-- The table with one more item. A template is refused before an endpoint that has an owner. -/
def add (c : Catalog) (owners : OwnerTable) (item : Item) : Except ResolutionError OwnerTable :=
  if isTemplate c item.endpoint then .error (.templateOwned item.endpoint item.owner.kind)
  else match owners.get? item.endpoint with
    | some first => .error (.conflictingOwner item.endpoint first.kind item.owner.kind)
    | none => .ok (owners.insert item.endpoint item.owner)

/-- The owner table of a list of items, or the first item's fault. -/
def ofItems (c : Catalog) (items : List Item) : Except ResolutionError OwnerTable :=
  items.foldlM (add c) ∅

end OwnerTable

end PbxTemplates
