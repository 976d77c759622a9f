import PbxTemplates.Proofs.Resolution.Lineage

/-!
# Resolutions without a walk

What a walk builds can be told without it: the endpoints in the order of building, each with the
owner in the table and the body that plain recursion computes (`built_itemWalk`). A resolution is
then three computations in turn, none of which keeps a state: the owner table, the bodies of the
items, and the emission of what is built (`resolve_eq_plain`). Two resolutions are compared in this
form.
-/

namespace PbxTemplates

variable {c : Canonicalizer} {catalog : Catalog} {items : List Item} {tenants : TenantDirectory}
  {owners : OwnerTable}

/-- An endpoint with its owner in the table and with the body that plain recursion computes. -/
def Endpoint.built (c : Canonicalizer) (catalog : Catalog) (owners : OwnerTable) (e : Endpoint) :
    BuiltEndpoint :=
  ⟨e, owners.get? e.id, catalog.inheritD (Endpoint.body c) {} e.id⟩

/-- All that the items reach, in the order of building. -/
def plainBuilt (c : Canonicalizer) (catalog : Catalog) (owners : OwnerTable) (items : List Item) :
    List BuiltEndpoint :=
  (catalog.buildOrder (items.map (·.endpoint))).map (Endpoint.built c catalog owners)

theorem Graph.BuildOrder.eq_built {built : List BuiltEndpoint} {b : BuiltEndpoint}
    (order : Graph.BuildOrder ⟨c, catalog, owners⟩ built) (hb : b ∈ built) :
    b = Endpoint.built c catalog owners b.endpoint := by
  have owner : b.owner = owners.get? b.endpoint.id := order.owner_eq hb
  have grounded : catalog.Grounded b.endpoint.id := order.grounded hb
  have body : b.body = catalog.inheritD (Endpoint.body c) {} b.endpoint.id :=
    Except.ok.inj ((order.inherit_body hb).symm.trans (Catalog.inherit_eq_inheritD grounded _))
  rw [Endpoint.built, ← owner, ← body]

theorem built_itemWalk {is : List Nat} (h : (itemWalk c catalog owners items).1 = .ok is) :
    (itemWalk c catalog owners items).2.built = plainBuilt c catalog owners items := by
  have order : Graph.BuildOrder ⟨c, catalog, owners⟩ (itemWalk c catalog owners items).2.built :=
    buildOrder_itemWalk
  have endpoints : (itemWalk c catalog owners items).2.endpoints
      = catalog.buildOrder (items.map (·.endpoint)) := Graph.endpoints_walk h
  rw [plainBuilt, ← endpoints, Walk.endpoints, List.map_map]
  exact (List.map_id _).symm.trans (List.map_congr_left fun b hb => order.eq_built hb)

theorem resolve_eq_plain (c : Canonicalizer) (catalog : Catalog) (items : List Item)
    (tenants : TenantDirectory) :
    resolve c catalog items tenants = (OwnerTable.ofItems catalog items).bind fun owners =>
      (itemBodies c catalog items).bind fun _ =>
        Resolution.ofBuilt c tenants (plainBuilt c catalog owners items) := by
  cases accepted : OwnerTable.ofItems catalog items with
  | error err => rw [resolve, accepted]; rfl
  | ok owners =>
    rw [resolve_eq accepted]
    cases hw : (itemWalk c catalog owners items).1 with
    | error err => rw [itemBodies_error hw]; rfl
    | ok is =>
      obtain ⟨bodies, ok⟩ := itemBodies_ok hw
      rw [ok, built_itemWalk hw]
      rfl

theorem resolve_ok_plain {r : Resolution} (h : resolve c catalog items tenants = .ok r) :
    ∃ owners, OwnerTable.ofItems catalog items = .ok owners ∧
      r = Resolution.complete c tenants (plainBuilt c catalog owners items) := by
  obtain ⟨owners, is, accepted, hw, _, rfl⟩ := resolve_eq_ok_iff.mp h
  exact ⟨owners, accepted, by rw [built_itemWalk hw]⟩

end PbxTemplates
