import PbxTemplates.Dump
import PbxTemplates.Proofs.Catalog.Declaration
import PbxTemplates.Proofs.Resolution.Locality

/-!
# The order of the endpoints of a dump

A dump lists its endpoints in any order, templates before or after what inherits from them. An id
that is declared twice is found before anything is resolved. Without one the order of the list makes
no difference, neither to the records nor to an error (`resolve_endpoint_order`).
-/

namespace PbxTemplates

theorem resolve_eq_of_get?_eq {catalog catalog' : Catalog}
    (same : ∀ id, catalog'.get? id = catalog.get? id) (c : Canonicalizer) (items : List Item)
    (tenants : TenantDirectory) :
    resolve c catalog' items tenants = resolve c catalog items tenants := by
  have agree : ∀ i ∈ items, catalog.AgreesAbove catalog' i.endpoint := fun _ _ a _ => same a
  have table : OwnerTable.ofItems catalog' items = OwnerTable.ofItems catalog items :=
    OwnerTable.ofItems_congr fun i _ => same i.endpoint
  simp only [resolve_eq_plain, table, itemBodies_congr agree, plainBuilt_congr agree]

namespace Dump

variable {d : Dump} {catalog : Catalog} {err : ResolutionError}

theorem resolve_of_catalog (h : Catalog.ofList d.endpoints = .ok catalog) (c : Canonicalizer) :
    d.resolve c = PbxTemplates.resolve c catalog d.items d.tenants := by
  rw [resolve, h]

theorem resolve_of_catalog_error (h : Catalog.ofList d.endpoints = .error err)
    (c : Canonicalizer) : d.resolve c = .error err := by
  rw [resolve, h]

/-- If two endpoints share an id, the first one whose id has come before is the error, whatever else
the dump says. Otherwise the catalog holds at each id the one endpoint that carries it, and the
endpoints may be listed in any order: the resolution is the same, be it records or an error. -/
theorem resolve_endpoint_order (d : Dump) (c : Canonicalizer) :
    (¬ (d.endpoints.map (·.id)).Nodup →
      ∃ e, Catalog.FirstRepeat d.endpoints e ∧ d.resolve c = .error (.duplicateEndpoint e.id)) ∧
    ((d.endpoints.map (·.id)).Nodup →
      (∃ catalog, Catalog.ofList d.endpoints = .ok catalog ∧
        ∀ id e, catalog.get? id = some e ↔ e ∈ d.endpoints ∧ e.id = id) ∧
      ∀ endpoints, endpoints.Perm d.endpoints →
        Dump.resolve { d with endpoints := endpoints } c = d.resolve c) := by
  constructor
  · intro shared
    obtain ⟨e, first⟩ := Catalog.exists_firstRepeat shared
    exact ⟨e, first, resolve_of_catalog_error (Catalog.ofList_of_firstRepeat first) c⟩
  · intro nodup
    have listed := Catalog.ofList_of_nodup nodup
    refine ⟨⟨_, listed, fun id e => Catalog.get?_eq_some_iff⟩, fun endpoints p => ?_⟩
    have nodup' : (endpoints.map (·.id)).Nodup := (p.map _).nodup_iff.mpr nodup
    have listed' := Catalog.ofList_of_nodup nodup'
    rw [resolve_of_catalog listed, resolve_of_catalog (d := { d with endpoints }) listed']
    exact resolve_eq_of_get?_eq (Catalog.get?_eq_of_perm p) c d.items d.tenants

end Dump

end PbxTemplates
