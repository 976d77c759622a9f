import Mathlib.Data.Set.Card
import PbxTemplates.Proofs.Resolution.Acceptance
import PbxTemplates.Proofs.Resolution.Failure

/-!
# What a resolution gives and in which order

The records of a resolution are those of the endpoints in the order of building that are no
templates. From this order it follows that there is one record for each item and none besides, that
the counts are those of what the items reach, and that a record stands before that of an earlier
item only as an ancestor (`resolve_inventory`).
-/

namespace PbxTemplates
open Relation

/-! ### Lists -/

theorem ncard_eq_length {α : Type} [DecidableEq α] {l : List α} {s : Set α} (nodup : l.Nodup)
    (mem : ∀ x, x ∈ l ↔ x ∈ s) : s.ncard = l.length := by
  have same : s = (l.toFinset : Set α) := by
    ext x
    simp [mem]
  rw [same, Set.ncard_coe_finset, List.toFinset_card_of_nodup nodup]

theorem rel_of_idxOf_lt {α : Type} [DecidableEq α] {l : List α} {R : α → α → Prop} {x y : α}
    (h : l.Pairwise R) (hy : y ∈ l) (lt : l.idxOf x < l.idxOf y) : R x y := by
  have inside : l.idxOf y < l.length := List.idxOf_lt_length_of_mem hy
  have related := List.pairwise_iff_getElem.mp h _ _ (Nat.lt_trans lt inside) inside lt
  rwa [List.getElem_idxOf, List.getElem_idxOf] at related

/-! ### The statement -/

def Catalog.reached (catalog : Catalog) (items : List Item) : Set Endpoint :=
  {e | catalog.get? e.id = some e ∧ catalog.ReachedBy items e.id}

def Resolution.ids (r : Resolution) : List String := r.records.map (·.id)

def Resolution.position (r : Resolution) (id : String) : Nat := r.ids.idxOf id

/-- What can be told of a resolution from the catalog and the items. -/
structure Inventory (catalog : Catalog) (items : List Item) (r : Resolution) : Prop where
  ids_perm : r.ids.Perm (items.map (·.endpoint))
  ids_nodup : r.ids.Nodup
  concrete : ∀ id ∈ r.ids, ∃ e, catalog.get? id = some e ∧ e.isTemplate = false
  descriptorsBuilt : r.stats.descriptorsBuilt = (catalog.reached items).ncard
  templatesSkipped :
    r.stats.templatesSkipped = {e ∈ catalog.reached items | e.isTemplate = true}.ncard
  recordsEmitted : r.stats.recordsEmitted = r.records.length
  one_per_item : r.records.length = items.length
  total : r.stats.descriptorsBuilt = r.stats.templatesSkipped + r.stats.recordsEmitted
  ancestors_first : ∀ first ∈ r.ids, ∀ later ∈ r.ids,
    catalog.Ancestor later first → r.position first < r.position later
  items_in_order : ∀ (i j : Nat) (x y : Item), items[i]? = some x → items[j]? = some y → i < j →
    r.position y.endpoint < r.position x.endpoint →
    ∃ k ≤ i, ∃ z, items[k]? = some z ∧ catalog.Ancestor z.endpoint y.endpoint

/-! ### The order of building -/

section
variable {c : Canonicalizer} {catalog : Catalog} {items : List Item} {tenants : TenantDirectory}
  {r : Resolution} {e : Endpoint} {x y : Item} {i j : Nat}

theorem Acceptable.mem_buildOrder_iff (h : Acceptable catalog items) :
    e ∈ catalog.buildOrder (items.map (·.endpoint)) ↔ e ∈ catalog.reached items := by
  rw [Catalog.mem_buildOrder_iff h.grounded_ids]
  simp [Catalog.reached, Catalog.ReachedBy]

/-- What the first items reach is built before all that only later items reach. -/
theorem Acceptable.pairwise_reached (h : Acceptable catalog items) (n : Nat) :
    (catalog.buildOrder (items.map (·.endpoint))).Pairwise fun first later =>
      catalog.ReachedBy (items.take n) later.id → catalog.ReachedBy (items.take n) first.id := by
  have inLineage : ∀ e ∈ catalog.buildOrder (items.map (·.endpoint)),
      e ∈ ((items.take n).map (·.endpoint)).flatMap catalog.lineage ↔
        catalog.ReachedBy (items.take n) e.id := by
    intro e he
    obtain ⟨held, _⟩ := h.mem_buildOrder_iff.mp he
    rw [List.flatMap_map, List.mem_flatMap]
    refine exists_congr fun i => and_congr_right fun hi => ?_
    rw [Catalog.mem_lineage_iff (h.grounded (List.mem_of_mem_take hi))]
    exact and_iff_left held
  have split : catalog.buildOrder (items.map (·.endpoint))
      = (((items.take n).map (·.endpoint)).flatMap catalog.lineage
        ++ ((items.drop n).map (·.endpoint)).flatMap catalog.lineage).eraseDups := by
    rw [← List.flatMap_append, ← List.map_append, List.take_append_drop, Catalog.buildOrder]
  have first : (catalog.buildOrder (items.map (·.endpoint))).Pairwise fun x y =>
      y ∈ ((items.take n).map (·.endpoint)).flatMap catalog.lineage →
        x ∈ ((items.take n).map (·.endpoint)).flatMap catalog.lineage :=
    split ▸ pairwise_eraseDups_append
  refine first.imp_of_mem fun {x y} hx hy before reached => ?_
  exact (inLineage x hx).mp (before ((inLineage y hy).mpr reached))

/-! ### Records and counts -/

theorem ids_of_resolve (h : resolve c catalog items tenants = .ok r) :
    r.ids = ((catalog.buildOrder (items.map (·.endpoint))).filter fun e => !e.isTemplate).map
      (·.id) := by
  obtain ⟨owners, is, _, hw, _, rfl⟩ := resolve_eq_ok_iff.mp h
  have order : (itemWalk c catalog owners items).2.endpoints
      = catalog.buildOrder (items.map (·.endpoint)) := Graph.endpoints_walk hw
  rw [← order]
  simp [Resolution.ids, Resolution.complete, BuiltEndpoint.recordIn, BuiltEndpoint.record,
    Walk.endpoints, List.filter_map, Function.comp_def]

theorem stats_of_resolve (h : resolve c catalog items tenants = .ok r) :
    r.stats = {
      descriptorsBuilt := (catalog.buildOrder (items.map (·.endpoint))).length
      templatesSkipped := (catalog.buildOrder (items.map (·.endpoint))).countP (·.isTemplate)
      recordsEmitted := r.records.length } := by
  obtain ⟨owners, is, _, hw, _, rfl⟩ := resolve_eq_ok_iff.mp h
  have order : (itemWalk c catalog owners items).2.endpoints
      = catalog.buildOrder (items.map (·.endpoint)) := Graph.endpoints_walk hw
  rw [← order]
  simp [Resolution.complete, Walk.endpoints, List.countP_map, Function.comp_def]

theorem nodup_ids_of_resolve (h : resolve c catalog items tenants = .ok r) : r.ids.Nodup := by
  rw [ids_of_resolve h]
  have whole := Catalog.nodup_ids_buildOrder (acceptable_of_resolve h).grounded_ids
  exact whole.sublist (List.filter_sublist.map _)

theorem mem_ids_iff (h : resolve c catalog items tenants = .ok r) (id : String) :
    id ∈ r.ids ↔ id ∈ items.map (·.endpoint) := by
  have acceptable := acceptable_of_resolve h
  rw [ids_of_resolve h]
  constructor
  · intro hid
    obtain ⟨e, he, rfl⟩ := List.mem_map.mp hid
    obtain ⟨he, concrete⟩ := List.mem_filter.mp he
    obtain ⟨held, reached⟩ := acceptable.mem_buildOrder_iff.mp he
    obtain ⟨i, hi, same⟩ := acceptable.owned e.id reached e held (by simpa using concrete)
    exact List.mem_map.mpr ⟨i, hi, same⟩
  · intro hid
    obtain ⟨i, hi, rfl⟩ := List.mem_map.mp hid
    obtain ⟨e, held, concrete⟩ := acceptable.concrete i hi
    have same : e.id = i.endpoint := Catalog.id_of_get?_eq_some held
    have reached : e ∈ catalog.reached items :=
      ⟨same ▸ held, same ▸ ⟨i, hi, Catalog.Reaches.refl _ _⟩⟩
    refine List.mem_map.mpr ⟨e, List.mem_filter.mpr ⟨?_, ?_⟩, same⟩
    · exact acceptable.mem_buildOrder_iff.mpr reached
    · simp [concrete]

theorem templates_add_ids (l : List Endpoint) :
    l.length = l.countP (·.isTemplate) + ((l.filter fun e => !e.isTemplate).map (·.id)).length := by
  rw [List.length_map, ← List.countP_eq_length_filter, l.length_eq_countP_add_countP (·.isTemplate)]
  simp

/-! ### Positions -/

theorem position_lt_of_ancestor (h : resolve c catalog items tenants = .ok r) {a b : String}
    (ha : a ∈ r.ids) (hb : b ∈ r.ids) (ancestor : catalog.Ancestor b a) :
    r.position a < r.position b := by
  have acceptable := acceptable_of_resolve h
  have apart : r.ids.Pairwise fun first later => ¬ catalog.Ancestor first later := by
    rw [ids_of_resolve h]
    exact List.pairwise_map.mpr
      ((Catalog.pairwise_buildOrder acceptable.grounded_ids).filter _)
  rcases Nat.lt_trichotomy (r.position a) (r.position b) with before | same | after
  · exact before
  · obtain rfl := (List.idxOf_inj ha).mp same
    obtain ⟨i, hi, rfl⟩ := List.mem_map.mp ((mem_ids_iff h a).mp ha)
    exact absurd ancestor (acceptable.acyclic i.endpoint ⟨i, hi, Catalog.Reaches.refl _ _⟩)
  · exact absurd ancestor (rel_of_idxOf_lt apart ha after)

/-- An item that comes later and is reached by the first ones is an ancestor of one of them. -/
theorem exists_ancestor (nodup : (items.map (·.endpoint)).Nodup) (hy : items[j]? = some y)
    (lt : i < j) (reached : catalog.ReachedBy (items.take (i + 1)) y.endpoint) :
    ∃ k ≤ i, ∃ z, items[k]? = some z ∧ catalog.Ancestor z.endpoint y.endpoint := by
  obtain ⟨z, hz, hzy⟩ := reached
  obtain ⟨k, hk, hkz⟩ := mem_take_iff.mp hz
  refine ⟨k, by omega, z, hkz, ?_⟩
  rcases reflTransGen_iff_eq_or_transGen.mp hzy with same | ancestor
  · exact absurd same.symm (OwnerTable.endpoint_ne_of_lt nodup hkz hy (by omega))
  · exact ancestor

theorem exists_ancestor_of_position_lt (h : resolve c catalog items tenants = .ok r)
    (hx : items[i]? = some x) (hy : items[j]? = some y) (lt : i < j)
    (before : r.position y.endpoint < r.position x.endpoint) :
    ∃ k ≤ i, ∃ z, items[k]? = some z ∧ catalog.Ancestor z.endpoint y.endpoint := by
  have acceptable := acceptable_of_resolve h
  have ordered : r.ids.Pairwise fun first later => catalog.ReachedBy (items.take (i + 1)) later →
      catalog.ReachedBy (items.take (i + 1)) first := by
    rw [ids_of_resolve h]
    exact List.pairwise_map.mpr ((acceptable.pairwise_reached (i + 1)).filter _)
  have hid : x.endpoint ∈ r.ids :=
    (mem_ids_iff h x.endpoint).mpr (List.mem_map_of_mem (List.mem_of_getElem? hx))
  have early : x ∈ items.take (i + 1) := mem_take_iff.mpr ⟨i, Nat.lt_succ_self i, hx⟩
  exact exists_ancestor acceptable.nodup hy lt
    (rel_of_idxOf_lt ordered hid before ⟨x, early, Catalog.Reaches.refl _ _⟩)

/-- A resolution that succeeds has one record for each item and none for a template, counts what the
items reach, and puts ancestors before descendants. A later item comes before an earlier one only as
an ancestor of an item up to there. -/
theorem resolve_inventory (h : resolve c catalog items tenants = .ok r) :
    Inventory catalog items r := by
  have acceptable := acceptable_of_resolve h
  have nodup : (catalog.buildOrder (items.map (·.endpoint))).Nodup := nodup_eraseDups _
  have mem := fun e => acceptable.mem_buildOrder_iff (e := e)
  have perm : r.ids.Perm (items.map (·.endpoint)) :=
    (List.perm_ext_iff_of_nodup (nodup_ids_of_resolve h) acceptable.nodup).mpr (mem_ids_iff h)
  refine ⟨perm, nodup_ids_of_resolve h, ?_, ?_, ?_, ?_, ?_, ?_, ?_, ?_⟩
  · intro id hid
    obtain ⟨i, hi, rfl⟩ := List.mem_map.mp (perm.mem_iff.mp hid)
    exact acceptable.concrete i hi
  · rw [stats_of_resolve h, ncard_eq_length nodup mem]
  · have templates : ∀ e, e ∈ (catalog.buildOrder (items.map (·.endpoint))).filter (·.isTemplate) ↔
        e ∈ {e ∈ catalog.reached items | e.isTemplate = true} := by
      intro e
      rw [List.mem_filter, mem]
      rfl
    rw [stats_of_resolve h, ncard_eq_length (nodup.filter _) templates,
      List.countP_eq_length_filter]
  · rw [stats_of_resolve h]
  · simpa [Resolution.ids] using perm.length_eq
  · rw [stats_of_resolve h, templates_add_ids, ← ids_of_resolve h, Resolution.ids, List.length_map]
  · intro first hfirst later hlater ancestor
    exact position_lt_of_ancestor h hfirst hlater ancestor
  · intro i j x y hx hy lt before
    exact exists_ancestor_of_position_lt h hx hy lt before

/-- The spare phone comes first although its item is the last one: the hall phone inherits from
it. -/
theorem inventory_switchboard :
    ∃ r, resolve .standard switchboard (trunkItems ["hall", "desk", "spare"]) ∅ = .ok r ∧
      r.ids = ["spare", "hall", "desk"] ∧ r.stats = ⟨4, 1, 3⟩ ∧
      Inventory switchboard (trunkItems ["hall", "desk", "spare"]) r := by
  refine ⟨_, rfl, rfl, rfl, ?_⟩
  have resolved : resolve .standard switchboard (trunkItems ["hall", "desk", "spare"]) ∅
      = .ok _ := rfl
  exact resolve_inventory resolved

end

end PbxTemplates
