import PbxTemplates.Endpoint.Finish

/-!
# Records of endpoints

A record is the complete configuration of one endpoint, with nothing left to inherit.
-/

namespace PbxTemplates

/-- The complete configuration of an endpoint. -/
@[ext] structure ResolvedEndpoint where
  id : String
  name : String
  label : String
  asteriskId : Option String
  tenantId : String
  sections : Sections
deriving DecidableEq

/-- An endpoint whose body is known, with its owner if it has one. -/
@[ext] structure BuiltEndpoint where
  endpoint : Endpoint
  owner : Option Owner
  /-- What descendants inherit. -/
  body : Sections
deriving DecidableEq

namespace BuiltEndpoint

def ofParents (c : Canonicalizer) (e : Endpoint) (owner : Option Owner) (parents : List Sections) :
    BuiltEndpoint :=
  ⟨e, owner, e.body c parents⟩

/-- The entries that the owner injects; an endpoint without owner gets none. -/
def injection (b : BuiltEndpoint) (tenant : TenantSettings) : Injection :=
  b.owner.elim {} (·.injection tenant)

def record (b : BuiltEndpoint) (c : Canonicalizer) (tenant : TenantSettings) :
    ResolvedEndpoint where
  id := b.endpoint.id
  name := b.endpoint.name
  label := b.endpoint.label
  asteriskId := b.endpoint.asteriskId
  tenantId := b.endpoint.tenantId
  sections := Finish.sections ⟨c, b.endpoint, b.body, b.injection tenant⟩

end BuiltEndpoint

end PbxTemplates
