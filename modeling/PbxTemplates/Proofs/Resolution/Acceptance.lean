import PbxTemplates.Proofs.Resolution.Recursion

/-!
# When a resolution succeeds

`Acceptable` lists what a request has to satisfy, in terms of the items and of the endpoints that
they reach. `resolve_succeeds_iff` says that nothing else matters: not the rule for repeated keys,
not the tenants and no endpoint that the items do not reach.
-/

namespace PbxTemplates

/-- The id is reached from the endpoint of an item. -/
def Catalog.ReachedBy (catalog : Catalog) (items : List Item) (a : String) : Prop :=
  ∃ i ∈ items, catalog.Reaches i.endpoint a

/-- What the items of a request and the catalog have to satisfy. -/
structure Acceptable (catalog : Catalog) (items : List Item) : Prop where
  nodup : (items.map (·.endpoint)).Nodup
  /-- Each item names an endpoint of the catalog that is no template. -/
  concrete : ∀ i ∈ items, ∃ e, catalog.get? i.endpoint = some e ∧ e.isTemplate = false
  /-- The parents of what is reached are in the catalog. -/
  closed : ∀ a, catalog.ReachedBy items a → ∀ e, catalog.get? a = some e →
    ∀ p ∈ e.parents, (catalog.get? p).isSome
  /-- Nothing that is reached inherits from itself. -/
  acyclic : ∀ a, catalog.ReachedBy items a → ¬ catalog.Ancestor a a
  /-- What is reached and is no template is named by an item. -/
  owned : ∀ a, catalog.ReachedBy items a → ∀ e, catalog.get? a = some e → e.isTemplate = false →
    ∃ i ∈ items, i.endpoint = a

section
open Relation

variable {c : Canonicalizer} {catalog catalog' : Catalog} {items : List Item}
  {tenants : TenantDirectory} {owners : OwnerTable}

/-! ### What the conditions say of the walk -/

theorem Acceptable.grounded (h : Acceptable catalog items) {i : Item} (hi : i ∈ items) :
    catalog.Grounded i.endpoint := by
  refine Catalog.grounded_of_acyclic ?_ fun a ha => h.acyclic a ⟨i, hi, ha⟩
  intro a ha
  rcases ReflTransGen.cases_tail ha with rfl | ⟨x, hx, e, he, hp⟩
  · obtain ⟨e, he, _⟩ := h.concrete i hi
    simp [he]
  · exact h.closed x ⟨i, hi, hx⟩ e he a hp

theorem Acceptable.grounded_ids (h : Acceptable catalog items) :
    ∀ id ∈ items.map (·.endpoint), catalog.Grounded id := by
  intro id hid
  obtain ⟨i, hi, rfl⟩ := List.mem_map.mp hid
  exact h.grounded hi

theorem mem_itemWalk_iff {is : List Nat} {a : String}
    (hw : (itemWalk c catalog owners items).1 = .ok is) :
    (∃ b ∈ (itemWalk c catalog owners items).2.built, b.endpoint.id = a) ↔
      catalog.ReachedBy items a := by
  refine (Graph.mem_walk_iff hw a).trans ?_
  simp [Catalog.ReachedBy]

/-- No built endpoint lacks an owner when the items name all that is reached and is no template. -/
theorem owned_iff {is : List Nat} (h : OwnerTable.ofItems catalog items = .ok owners)
    (hw : (itemWalk c catalog owners items).1 = .ok is) :
    (∀ b ∈ (itemWalk c catalog owners items).2.built, b.isOrphan = false) ↔
      ∀ a, catalog.ReachedBy items a → ∀ e, catalog.get? a = some e → e.isTemplate = false →
        ∃ i ∈ items, i.endpoint = a := by
  have order : Graph.BuildOrder ⟨c, catalog, owners⟩ (itemWalk c catalog owners items).2.built :=
    buildOrder_itemWalk
  have reached : ∀ a, (∃ b ∈ (itemWalk c catalog owners items).2.built, b.endpoint.id = a) ↔
      catalog.ReachedBy items a := fun a => mem_itemWalk_iff hw
  have orphan : ∀ b ∈ (itemWalk c catalog owners items).2.built, b.isOrphan = false ↔
      (b.endpoint.isTemplate = false → ∃ i ∈ items, i.endpoint = b.endpoint.id) := by
    intro b hb
    have named : b.owner = none ↔ ¬ ∃ i ∈ items, i.endpoint = b.endpoint.id := by
      rw [order.owner_eq hb, OwnerTable.get?_eq_none_iff h]
      simp
    rw [BuiltEndpoint.isOrphan_eq_false_iff, Ne, named, not_not]
  constructor
  · intro owned a ha e he
    obtain ⟨b, hb, rfl⟩ := (reached a).mpr ha
    have same : b.endpoint = e := Option.some.inj ((order.held hb).symm.trans he)
    exact same ▸ (orphan b hb).mp (owned b hb)
  · intro owned b hb
    have ha := (reached b.endpoint.id).mp ⟨b, hb, rfl⟩
    exact (orphan b hb).mpr (owned b.endpoint.id ha b.endpoint (order.held hb))

/-! ### Which requests are accepted -/

theorem acceptable_of_resolve {r : Resolution} (h : resolve c catalog items tenants = .ok r) :
    Acceptable catalog items := by
  obtain ⟨owners, is, ho, hw, howned, _⟩ := resolve_eq_ok_iff.mp h
  obtain ⟨nodup, concrete⟩ := OwnerTable.ofItems_isOk_iff.mp ⟨owners, ho⟩
  have grounded : ∀ i ∈ items, catalog.Grounded i.endpoint := fun i hi =>
    Graph.walk_isOk_iff.mp ⟨is, hw⟩ i.endpoint (List.mem_map_of_mem hi)
  have reached : ∀ a, catalog.ReachedBy items a → catalog.Grounded a := by
    rintro a ⟨i, hi, ha⟩
    exact (grounded i hi).reaches ha
  refine ⟨nodup, ?_, ?_, ?_, (owned_iff ho hw).mp howned⟩
  · intro i hi
    obtain ⟨e, he⟩ := Option.isSome_iff_exists.mp (grounded i hi).isSome
    exact ⟨e, he, OwnerTable.isTemplate_of_get he ▸ concrete i hi⟩
  · intro a ha e he p hp
    exact ((reached a ha).parent (Catalog.parent_of_mem he hp)).isSome
  · intro a ha
    exact (reached a ha).not_ancestor_self

theorem Acceptable.succeeds (h : Acceptable catalog items) :
    ∃ r, resolve c catalog items tenants = .ok r := by
  have concrete : ∀ i ∈ items, OwnerTable.isTemplate catalog i.endpoint = false := by
    intro i hi
    obtain ⟨e, he, ht⟩ := h.concrete i hi
    exact (OwnerTable.isTemplate_of_get he).trans ht
  obtain ⟨owners, ho⟩ := OwnerTable.ofItems_isOk_iff.mpr ⟨h.nodup, concrete⟩
  obtain ⟨is, hw⟩ : ∃ is, (itemWalk c catalog owners items).1 = .ok is :=
    Graph.walk_isOk_iff.mpr h.grounded_ids
  exact ⟨_, resolve_eq_ok_iff.mpr ⟨owners, is, ho, hw, (owned_iff ho hw).mpr h.owned, rfl⟩⟩

/-- Only what the items reach matters to whether a request is acceptable. -/
theorem Acceptable.congr (h : Acceptable catalog items)
    (agree : ∀ i ∈ items, catalog.AgreesAbove catalog' i.endpoint) : Acceptable catalog' items := by
  have reached : ∀ a, catalog'.ReachedBy items a →
      catalog.ReachedBy items a ∧ catalog'.get? a = catalog.get? a := by
    rintro a ⟨i, hi, ha⟩
    have ha := (agree i hi).reaches ha
    exact ⟨⟨i, hi, ha⟩, agree i hi a ha⟩
  refine ⟨h.nodup, ?_, ?_, ?_, ?_⟩
  · intro i hi
    rw [agree i hi i.endpoint (Catalog.Reaches.refl _ _)]
    exact h.concrete i hi
  · rintro a ⟨i, hi, ha⟩ e he p hp
    have edge : catalog'.Parent a p := Catalog.parent_of_mem he hp
    obtain ⟨⟨j, hj, hap⟩, same⟩ := reached p ⟨i, hi, ReflTransGen.tail ha edge⟩
    obtain ⟨hra, hsame⟩ := reached a ⟨i, hi, ha⟩
    rw [same]
    exact h.closed a hra e (hsame ▸ he) p hp
  · rintro a ⟨i, hi, ha⟩ cycle
    have ha := (agree i hi).reaches ha
    exact h.acyclic a ⟨i, hi, ha⟩ ((agree i hi).ancestor ha cycle)
  · intro a ha e he
    obtain ⟨ha, same⟩ := reached a ha
    exact h.owned a ha e (same ▸ he)

/-- A resolution succeeds exactly when the request is acceptable. What the items do not reach, the
tenants and the rule for repeated keys have no part in this. -/
theorem resolve_succeeds_iff (c : Canonicalizer) (catalog : Catalog) (items : List Item)
    (tenants : TenantDirectory) :
    ((∃ r, resolve c catalog items tenants = .ok r) ↔ Acceptable catalog items) ∧
    ∀ (c' : Canonicalizer) (catalog' : Catalog) (tenants' : TenantDirectory),
      (∀ a, catalog.ReachedBy items a → catalog'.get? a = catalog.get? a) →
      ((∃ r, resolve c' catalog' items tenants' = .ok r) ↔
        ∃ r, resolve c catalog items tenants = .ok r) := by
  have succeeds : ∀ {c catalog tenants},
      (∃ r, resolve c catalog items tenants = .ok r) ↔ Acceptable catalog items :=
    ⟨fun ⟨_, h⟩ => acceptable_of_resolve h, Acceptable.succeeds⟩
  refine ⟨succeeds, fun c' catalog' tenants' same => ?_⟩
  have agree : ∀ i ∈ items, catalog.AgreesAbove catalog' i.endpoint := fun i hi a ha =>
    same a ⟨i, hi, ha⟩
  rw [succeeds, succeeds]
  constructor
  · intro h
    exact h.congr fun i hi => (agree i hi).symm
  · intro h
    exact h.congr agree

end

end PbxTemplates
