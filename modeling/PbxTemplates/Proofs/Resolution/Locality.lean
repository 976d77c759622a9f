import PbxTemplates.Proofs.Resolution.Acceptance
import PbxTemplates.Proofs.Resolution.WithoutWalk

/-!
# What a resolution reads of its catalog

A resolution looks up the endpoints of its items and what these inherit from, and nothing else. Each
of the computations of which it consists gives the same on two catalogs that agree there, also where
it fails (`resolve_eq_of_agree_reached`).
-/

namespace PbxTemplates

variable {c : Canonicalizer} {catalog catalog' : Catalog} {items : List Item}
  {tenants : TenantDirectory} {owners : OwnerTable} {e : Endpoint} {id : String}

/-! ### Plain recursion -/

namespace Catalog

theorem AgreesAbove.of_reaches {a : String} (h : catalog.AgreesAbove catalog' id)
    (ha : catalog.Reaches id a) : catalog.AgreesAbove catalog' a := by
  intro b hb
  exact h b (Relation.ReflTransGen.trans ha hb)

theorem AgreesAbove.inherit_eq {α : Type} {path : List String} {child : Option String}
    (h : catalog.AgreesAbove catalog' id) (f : Endpoint → List α → α) :
    catalog'.inherit f path id child = catalog.inherit f path id child := by
  refine inherit_congr fun a ha => ?_
  rw [h a ha]

theorem AgreesAbove.inheritD_eq {α : Type} (h : catalog.AgreesAbove catalog' id)
    (f : Endpoint → List α → α) (x : α) : catalog'.inheritD f x id = catalog.inheritD f x id := by
  rw [inheritD, inheritD, h.inherit_eq f]

/-- The lineage of an id is empty where the recursion fails, and otherwise it holds what is
reached. -/
theorem reaches_of_mem_lineage (h : e ∈ catalog.lineage id) : catalog.Reaches id e.id := by
  by_cases grounded : catalog.Grounded id
  · exact ((mem_lineage_iff grounded).mp h).1
  · cases hl : catalog.inherit Endpoint.lineage [] id none with
    | ok l => exact absurd (clear_of_isOk ⟨l, hl⟩).1 grounded
    | error err => simp [lineage, inheritD, hl, Except.toOption] at h

theorem buildOrder_congr {ids : List String} (h : ∀ id ∈ ids, catalog.AgreesAbove catalog' id) :
    catalog'.buildOrder ids = catalog.buildOrder ids := by
  have lineages : ids.flatMap catalog'.lineage = ids.flatMap catalog.lineage :=
    List.flatMap_congr fun id hid => (h id hid).inheritD_eq Endpoint.lineage []
  rw [buildOrder, buildOrder, lineages]

end Catalog

/-! ### The three phases -/

theorem OwnerTable.ofItems_congr
    (h : ∀ i ∈ items, catalog'.get? i.endpoint = catalog.get? i.endpoint) :
    ofItems catalog' items = ofItems catalog items := by
  induction items using List.reverseRecOn with
  | nil => rfl
  | append_singleton items item ih =>
    have here : ∀ owners, add catalog' owners item = add catalog owners item := by
      intro owners
      rw [add, add, isTemplate, isTemplate, h item (by simp)]
    rw [ofItems_snoc, ofItems_snoc, ih fun i hi => h i (List.mem_append_left _ hi)]
    simp only [here]

theorem itemBodies_congr (h : ∀ i ∈ items, catalog.AgreesAbove catalog' i.endpoint) :
    itemBodies c catalog' items = itemBodies c catalog items :=
  mapM_congr fun i hi => (h i hi).inherit_eq (Endpoint.body c)

theorem plainBuilt_congr (h : ∀ i ∈ items, catalog.AgreesAbove catalog' i.endpoint) :
    plainBuilt c catalog' owners items = plainBuilt c catalog owners items := by
  have above : ∀ id ∈ items.map (·.endpoint), catalog.AgreesAbove catalog' id := by
    simpa using h
  rw [plainBuilt, Catalog.buildOrder_congr above]
  refine List.map_congr_left fun e he => ?_
  obtain ⟨id, hid, he⟩ := List.mem_flatMap.mp (List.mem_eraseDups.mp he)
  have reached : catalog.Reaches id e.id := Catalog.reaches_of_mem_lineage he
  rw [Endpoint.built, ((above id hid).of_reaches reached).inheritD_eq]
  rfl

/-- A resolution gives the same on two catalogs that hold the same at the items and at all that
these reach, be it records or an error. -/
theorem resolve_eq_of_agree_reached
    (same : ∀ a, catalog.ReachedBy items a → catalog'.get? a = catalog.get? a) :
    resolve c catalog' items tenants = resolve c catalog items tenants := by
  have agree : ∀ i ∈ items, catalog.AgreesAbove catalog' i.endpoint := fun i hi a ha =>
    same a ⟨i, hi, ha⟩
  have table : OwnerTable.ofItems catalog' items = OwnerTable.ofItems catalog items :=
    OwnerTable.ofItems_congr fun i hi => agree i hi i.endpoint (Catalog.Reaches.refl _ _)
  simp only [resolve_eq_plain, table, itemBodies_congr agree, plainBuilt_congr agree]

/-- The lobby phone of `tangled` with all that it inherits from, in another order. The desk phone,
from which it does not inherit, is now broken in two ways. -/
def retangled : Catalog where
  endpoints := [
    { id := "desk", name := "old", tenantId := "u", parents := ["gone", "desk"] },
    { id := "knot", name := "knot", tenantId := "t", isTemplate := true, parents := ["loop"] },
    { id := "loop", name := "loop", tenantId := "t", isTemplate := true, parents := ["knot"] },
    { id := "phone", name := "phone", tenantId := "t", isTemplate := true },
    { id := "lobby", name := "lobby", tenantId := "t", parents := ["phone", "loop"] }]
  nodup_ids := by decide

theorem resolve_retangled :
    let items : List Item := [⟨"lobby", .trunk {}⟩]
    (∀ a, tangled.ReachedBy items a → retangled.get? a = tangled.get? a) ∧
    retangled.get? "desk" ≠ tangled.get? "desk" ∧
    resolve .standard retangled items ∅ = .error (.inheritanceCycle ["loop", "knot", "loop"]) := by
  intro items
  have closed : ∀ x ∈ ["lobby", "phone", "loop", "knot"], ∀ e ∈ tangled.get? x,
      ∀ p ∈ e.parents, p ∈ ["lobby", "phone", "loop", "knot"] := by decide
  have kept : ∀ x ∈ ["lobby", "phone", "loop", "knot"], retangled.get? x = tangled.get? x := by
    decide
  have same : ∀ a, tangled.ReachedBy items a → retangled.get? a = tangled.get? a := by
    rintro a ⟨i, hi, ha⟩
    obtain rfl := List.mem_singleton.mp hi
    refine kept a (ha.mem_of_closed (s := (· ∈ ["lobby", "phone", "loop", "knot"])) (by decide) ?_)
    rintro x p hx ⟨e, he, hp⟩
    exact closed x hx e he p hp
  exact ⟨same, by decide, (resolve_eq_of_agree_reached same).trans rfl⟩

end PbxTemplates
