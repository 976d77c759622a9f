import PbxTemplates.Proofs.FirstPlaces
import PbxTemplates.Proofs.Resolution.Recursion

/-!
# The order of building

A walk builds parents before children and goes through the parents of an endpoint, and through the
ids from which it starts, in the order in which they are listed. This order can be told without a
walk: plain recursion lists the ancestry of each id, parents first, and of an endpoint that comes
several times the first place counts (`Catalog.buildOrder`).

Main statement: `endpoints_walk`.
-/

namespace PbxTemplates
open Relation

/-- The endpoints that lead to an endpoint, from those that lead to its parents: parent after parent
in the order in which it lists them, then the endpoint itself. -/
def Endpoint.lineage (e : Endpoint) (parents : List (List Endpoint)) : List Endpoint :=
  parents.flatten ++ [e]

namespace Catalog

variable {c : Catalog} {id : String} {e : Endpoint}

/-- The endpoints that lead to an id, an ancestor once for each route to it. -/
def lineage (c : Catalog) : String → List Endpoint := c.inheritD Endpoint.lineage []

/-- The endpoints that the ids reach, each at the place where it first comes in their lineages. -/
def buildOrder (c : Catalog) (ids : List String) : List Endpoint :=
  (ids.flatMap c.lineage).eraseDups

theorem lineage_eq (h : c.Grounded id) (held : c.get? id = some e) :
    c.lineage id = e.parents.flatMap c.lineage ++ [e] := by
  rw [lineage, inheritD_eq h held, Endpoint.lineage, List.flatMap_def]

theorem mem_lineage_iff (h : c.Grounded id) :
    e ∈ c.lineage id ↔ c.Reaches id e.id ∧ c.get? e.id = some e := by
  induction h with
  | @intro id d held parents ih =>
    have hid : d.id = id := id_of_get?_eq_some held
    rw [lineage_eq (.intro held parents) held, List.mem_append, List.mem_flatMap,
      List.mem_singleton]
    constructor
    · rintro (⟨p, hp, he⟩ | rfl)
      · obtain ⟨reached, found⟩ := (ih p hp).mp he
        exact ⟨reached.of_parent (parent_of_mem held hp), found⟩
      · exact ⟨hid ▸ Reaches.refl c id, hid ▸ held⟩
    · rintro ⟨reached, found⟩
      rcases ReflTransGen.cases_head reached with here | ⟨p, hp, reached⟩
      · rw [← here, held] at found
        exact .inr (Option.some.inj found).symm
      · have hp : p ∈ d.parents := hp.mem held
        exact .inl ⟨p, hp, (ih p hp).mpr ⟨reached, found⟩⟩

theorem mem_buildOrder_iff {ids : List String} (h : ∀ id ∈ ids, c.Grounded id) :
    e ∈ c.buildOrder ids ↔ c.get? e.id = some e ∧ ∃ id ∈ ids, c.Reaches id e.id := by
  rw [buildOrder, List.mem_eraseDups, List.mem_flatMap]
  constructor
  · rintro ⟨id, hid, he⟩
    obtain ⟨reached, held⟩ := (mem_lineage_iff (h id hid)).mp he
    exact ⟨held, id, hid, reached⟩
  · rintro ⟨held, id, hid, reached⟩
    exact ⟨id, hid, (mem_lineage_iff (h id hid)).mpr ⟨reached, held⟩⟩

theorem nodup_ids_buildOrder {ids : List String} (h : ∀ id ∈ ids, c.Grounded id) :
    ((c.buildOrder ids).map (·.id)).Nodup := by
  refine List.Nodup.map_on ?_ (nodup_eraseDups _)
  intro d hd e he same
  obtain ⟨held, _⟩ := (mem_buildOrder_iff h).mp hd
  obtain ⟨held', _⟩ := (mem_buildOrder_iff h).mp he
  rw [same, held'] at held
  exact (Option.some.inj held).symm

end Catalog

def Walk.endpoints (w : Walk) : List Endpoint := w.built.map (·.endpoint)

namespace Graph

variable {g : Graph} {w w' : Walk} {id : String} {ids path : List String} {child : Option String}
  {i fuel : Nat}

theorem Coherent.nodup_endpoints (h : g.Coherent w) : w.endpoints.Nodup := by
  refine List.Nodup.of_map (·.id) ?_
  rw [Walk.endpoints, List.map_map]
  exact h.order.nodup_ids

theorem Coherent.lineage_subset (h : g.Coherent w) (hm : w.marks.get? id = some (.built i)) :
    g.catalog.lineage id ⊆ w.endpoints := by
  intro e he
  obtain ⟨b, hb, rfl⟩ := (h.built_iff id i).mp hm
  have hb : b ∈ w.built := List.mem_of_getElem? hb
  obtain ⟨reached, found⟩ := (Catalog.mem_lineage_iff (h.order.grounded hb)).mp he
  obtain ⟨b', hb', hid⟩ := h.order.reaches_mem hb reached
  have same := h.order.held hb'
  rw [hid, found] at same
  exact List.mem_map.mpr ⟨b', hb', (Option.some.inj same).symm⟩

theorem visitAll_endpoints {visit : String → Walk → Option (Outcome Nat)} {is : List Nat}
    (keeps : ∀ id ∈ ids, g.KeepsCoherent path id (visit id))
    (step : ∀ id ∈ ids, ∀ w, g.Coherent w → w.path = path → ∀ i w',
      visit id w = some (.ok i, w') →
        w'.endpoints = (w.endpoints ++ g.catalog.lineage id).eraseDups)
    (hw : g.Coherent w) (hpath : w.path = path) (h : visitAll visit ids w = some (.ok is, w')) :
    w'.endpoints = (w.endpoints ++ ids.flatMap g.catalog.lineage).eraseDups := by
  induction ids generalizing w w' is with
  | nil =>
    obtain ⟨-, rfl⟩ : [] = is ∧ w = w' := by simpa [visitAll] using h
    rw [List.flatMap_nil, List.append_nil, eraseDups_of_nodup hw.nodup_endpoints]
  | cons id ids ih =>
    cases visitAll_step h with
    | @all i is w₁ _ head tail =>
      obtain ⟨hp, hok⟩ := keeps id List.mem_cons_self w hw hpath _ _ head
      have here := step id List.mem_cons_self w hw hpath _ _ head
      have rest := ih (fun id hid => keeps id (List.mem_cons_of_mem _ hid))
        (fun id hid => step id (List.mem_cons_of_mem _ hid)) hp.coherent (hok _ rfl).1 tail
      rw [rest, here, eraseDups_append_left, List.flatMap_cons, List.append_assoc]

/-- A visit that succeeds adds the lineage of its id, as far as it has not been built. -/
theorem visit_endpoints (hw : g.Coherent w) (hc : g.Calls w id child)
    (h : g.visit fuel id child w = some (.ok i, w')) :
    w'.endpoints = (w.endpoints ++ g.catalog.lineage id).eraseDups := by
  induction fuel generalizing id child w w' i with
  | zero => cases h
  | succ fuel ih =>
    have grounded : g.catalog.Grounded id := by
      obtain ⟨hp, hok⟩ := visit_progress hw hc h
      exact (hp.coherent.clear (hok i rfl).2).1
    cases visit_step h with
    | known mark =>
      rw [eraseDups_append_of_subset (hw.lineage_subset mark),
        eraseDups_of_nodup hw.nodup_endpoints]
      rfl
    | @built e is w₁ mark held parents =>
      have entered := hw.count.enter hc mark
      have keeps : ∀ p ∈ e.parents,
          g.KeepsCoherent (w.path ++ [id]) p (g.visit fuel p (some id)) :=
        fun p hp => keepsCoherent_parent held hp
      have ancestors :
          w₁.endpoints = (w.endpoints ++ e.parents.flatMap g.catalog.lineage).eraseDups := by
        refine visitAll_endpoints (w := w.count.enter id) keeps ?_ entered rfl parents
        intro p hp w₂ hw₂ hpath i₂ w₃ hv
        exact ih hw₂ (.parent hpath held hp) hv
      -- the endpoint is still in progress, so its parents have not built it
      obtain ⟨hp, hok⟩ := visitAll_progress keeps entered rfl parents
      have onPath : id ∈ w₁.path := (hok _ rfl).1 ▸ List.mem_append_right _ List.mem_cons_self
      have fresh : e ∉ w.endpoints ++ e.parents.flatMap g.catalog.lineage := by
        rw [← List.mem_eraseDups, ← ancestors]
        intro he
        obtain ⟨b, hb, hbe⟩ := List.mem_map.mp he
        refine hp.coherent.not_mem_built (fun j hj => ?_) hb
          (hbe ▸ Catalog.id_of_get?_eq_some held)
        rw [(hp.coherent.inProgress_iff id).mpr onPath] at hj
        cases hj
      calc (w₁.leave id _).endpoints
          = w₁.endpoints ++ [e] := by simp [Walk.endpoints, Walk.leave, BuiltEndpoint.ofParents]
        _ = (w.endpoints ++ g.catalog.lineage id).eraseDups := by
          rw [ancestors, Catalog.lineage_eq grounded held, ← List.append_assoc, eraseDups_snoc,
            if_neg fresh]

theorem endpoints_walk {is : List Nat} (h : (g.walk ids).1 = .ok is) :
    (g.walk ids).2.endpoints = g.catalog.buildOrder ids := by
  have hwalk : visitAll (fun id => g.visit g.fuel id none) ids {}
      = some (.ok is, (g.walk ids).2) := by
    rw [g.walk_eq ids, ← h]
  refine visitAll_endpoints (fun _ _ => keepsCoherent_item) ?_ g.coherent_start rfl hwalk
  intro id _ w hw hpath i w' hv
  exact visit_endpoints hw (.item hpath) hv

end Graph

theorem Catalog.pairwise_buildOrder {c : Catalog} {ids : List String}
    (h : ∀ id ∈ ids, c.Grounded id) :
    (c.buildOrder ids).Pairwise fun first later => ¬ c.Ancestor first.id later.id := by
  -- a walk of no owners builds in this order
  obtain ⟨is, hw⟩ := (Graph.walk_isOk_iff (g := ⟨.standard, c, ∅⟩)).mpr h
  have order := (Graph.walk_progress ⟨.standard, c, ∅⟩ ids).1.coherent.order
  exact Graph.endpoints_walk hw ▸ List.pairwise_map.mpr order.pairwise_not_ancestor

end PbxTemplates
