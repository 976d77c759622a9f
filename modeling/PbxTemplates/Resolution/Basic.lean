import PbxTemplates.Resolution.Walk

/-!
# Resolutions

A resolution turns the items of a request into one record per endpoint that is no template. It
fails as a whole: first for faults of the owner table, then for the first fault that the walk
meets, at last for an endpoint without owner.
-/

namespace PbxTemplates

@[ext] structure ResolutionStats where
  /-- The endpoints built, templates included. -/
  descriptorsBuilt : Nat
  templatesSkipped : Nat
  recordsEmitted : Nat
deriving DecidableEq

@[ext] structure Resolution where
  /-- The records, ancestors before descendants and otherwise in the order of the items. -/
  records : List ResolvedEndpoint
  stats : ResolutionStats
deriving DecidableEq

namespace Resolution

/-- The records of built endpoints. Templates have none, and all others need an owner. -/
def emit (c : Canonicalizer) (tenants : TenantDirectory) :
    List BuiltEndpoint → Except ResolutionError (List ResolvedEndpoint)
  | [] => .ok []
  | b :: rest =>
    if b.endpoint.isTemplate then emit c tenants rest
    else if b.owner.isNone then .error (.missingOwner b.endpoint.id)
    else match emit c tenants rest with
      | .error e => .error e
      | .ok records => .ok (b.record c (tenants.settings b.endpoint.tenantId) :: records)

/-- The resolution that emits what a walk has built. -/
def ofBuilt (c : Canonicalizer) (tenants : TenantDirectory) (built : List BuiltEndpoint) :
    Except ResolutionError Resolution :=
  match emit c tenants built with
  | .error e => .error e
  | .ok records => .ok {
      records
      stats := {
        descriptorsBuilt := built.length
        templatesSkipped := built.countP (·.endpoint.isTemplate)
        recordsEmitted := records.length } }

end Resolution

/-- Resolves items against a catalog: the owner table, the walk from each item's endpoint in order,
and the records of what was built. -/
def resolve (c : Canonicalizer) (catalog : Catalog) (items : List Item)
    (tenants : TenantDirectory) : Except ResolutionError Resolution :=
  match OwnerTable.ofItems catalog items with
  | .error e => .error e
  | .ok owners =>
    match Graph.walk ⟨c, catalog, owners⟩ (items.map (·.endpoint)) with
    | (.error e, _) => .error e
    | (.ok _, w) => Resolution.ofBuilt c tenants w.built

end PbxTemplates
