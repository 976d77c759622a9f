import PbxTemplates.Proofs.Catalog.Ancestry
import PbxTemplates.Proofs.StepsInTurn

/-!
# Inheritance by plain recursion

`inherit` computes something for an endpoint from what it computes for the endpoint's parents. It
remembers nothing but the path by which it came, so an ancestor that is reached by several routes is
computed once for each of them. What is computed is a parameter: the body of an endpoint, the raw
entries of one of its sections, the value of a key.

The laws: whether it succeeds does not depend on what is computed (`inherit_isOk_iff`), where it
succeeds the path by which it came does not matter (`inherit_eq_of_clear`), a map that turns one
computation into another may be applied at the end (`inherit_map`), and two catalogs that agree on
the ancestry give the same (`inherit_congr`).
-/

namespace PbxTemplates

universe u v

namespace Catalog
open Relation

variable {α : Type u} {β : Type v} {c : Catalog} {f : Endpoint → List α → α}
  {path path' : List String} {id p : String} {child child' : Option String} {e : Endpoint}

/-! ### The recursion -/

theorem length_off_path (hid : id ∉ path) (held : id ∈ c.ids) :
    (c.ids.filter (· ∉ path ++ [id])).length < (c.ids.filter (· ∉ path)).length := by
  have sub : c.ids.filter (· ∉ path ++ [id]) = (c.ids.filter (· ∉ path)).filter (· ≠ id) := by
    rw [List.filter_filter]
    refine List.filter_congr fun j _ => ?_
    simp [and_comm]
  have mem : id ∈ c.ids.filter (· ∉ path) := List.mem_filter.mpr ⟨held, by simpa using hid⟩
  rw [sub]
  exact List.length_filter_lt_length_iff_exists.mpr ⟨id, mem, by simp⟩

/-- What `f` makes of an endpoint and of what was made of its parents in the order in which it lists
them. `path` leads to the endpoint, `child` is the end of it, and the first failure ends all. -/
def inherit (c : Catalog) (f : Endpoint → List α → α) (path : List String) (id : String)
    (child : Option String) : Except ResolutionError α :=
  if _hid : id ∈ path then .error (.inheritanceCycle (path.drop (path.idxOf id) ++ [id]))
  else
    match _he : c.get? id with
    | none => .error (child.elim (.unknownEndpoint id) (.missingParent · id))
    | some e => do
      let values ← e.parents.mapM fun p => c.inherit f (path ++ [id]) p (some id)
      return f e values
termination_by (c.ids.filter (· ∉ path)).length
decreasing_by exact length_off_path _hid (mem_ids_of_get?_eq_some _he)

theorem inherit_of_mem (h : id ∈ path) :
    c.inherit f path id child = .error (.inheritanceCycle (path.drop (path.idxOf id) ++ [id])) := by
  rw [inherit, dif_pos h]

theorem inherit_of_missing (h : id ∉ path) (he : c.get? id = none) :
    c.inherit f path id child
      = .error (child.elim (.unknownEndpoint id) (.missingParent · id)) := by
  rw [inherit, dif_neg h]
  split
  · rfl
  · simp_all

theorem inherit_of_get (h : id ∉ path) (he : c.get? id = some e) :
    c.inherit f path id child
      = (e.parents.mapM fun p => c.inherit f (path ++ [id]) p (some id)).map (f e) := by
  have unfolded : c.inherit f path id child = do
      let values ← e.parents.mapM fun p => c.inherit f (path ++ [id]) p (some id)
      return f e values := by
    rw [inherit, dif_neg h]
    split <;> simp_all
  rw [unfolded]
  cases e.parents.mapM fun p => c.inherit f (path ++ [id]) p (some id) <;> rfl

theorem inherit_error_of_parents {err : ResolutionError} (h : id ∉ path) (he : c.get? id = some e)
    (fails : (e.parents.mapM fun p => c.inherit f (path ++ [id]) p (some id)) = .error err) :
    c.inherit f path id child = .error err := by
  rw [inherit_of_get h he, fails]
  rfl

/-! ### Where it succeeds -/

/-- Nothing that the id reaches is on the path. -/
def Clear (c : Catalog) (path : List String) (id : String) : Prop := ∀ a, c.Reaches id a → a ∉ path

theorem Clear.not_mem (h : c.Clear path id) : id ∉ path := h id (Reaches.refl c id)

theorem clear_nil (c : Catalog) (id : String) : c.Clear [] id := by
  intro a _
  simp

theorem Clear.parent (h : c.Clear path id) (hg : c.Grounded id) (hp : c.Parent id p) :
    c.Clear (path ++ [id]) p := by
  intro a ha hmem
  rcases List.mem_append.mp hmem with hpath | hid
  · exact h a (ha.of_parent hp) hpath
  · have back : a = id := List.mem_singleton.mp hid
    exact hg.not_ancestor_self (TransGen.head' hp (back ▸ ha))

theorem isOk_of_clear (f : Endpoint → List α → α) (hg : c.Grounded id) (h : c.Clear path id)
    (child : Option String) : ∃ x, c.inherit f path id child = .ok x := by
  induction hg generalizing path child with
  | @intro id e held parents ih =>
    have hp : ∀ p ∈ e.parents, ∃ y, c.inherit f (path ++ [id]) p (some id) = .ok y := fun p hp =>
      ih p hp (h.parent (.intro held parents) (parent_of_mem held hp)) (some id)
    obtain ⟨ys, hys⟩ := mapM_isOk_iff.mpr hp
    exact ⟨f e ys, by rw [inherit_of_get h.not_mem held, hys]; rfl⟩

theorem clear_of_isOk (h : ∃ x, c.inherit f path id child = .ok x) :
    c.Grounded id ∧ c.Clear path id := by
  obtain ⟨x, h⟩ := h
  -- nothing is known of the graph yet, so the induction is on the recursion itself
  induction path, id, child using inherit.induct c generalizing x with
  | case1 path id child hmem =>
    rw [inherit_of_mem hmem] at h
    cases h
  | case2 path id child hid he =>
    rw [inherit_of_missing hid he] at h
    cases h
  | case3 path id child hid e he ih =>
    have ok : ∃ ys, (e.parents.mapM fun p => c.inherit f (path ++ [id]) p (some id)) = .ok ys := by
      rw [inherit_of_get hid he] at h
      cases hys : e.parents.mapM fun p => c.inherit f (path ++ [id]) p (some id) with
      | error err => rw [hys] at h; cases h
      | ok ys => exact ⟨ys, rfl⟩
    have parents : ∀ p ∈ e.parents, c.Grounded p ∧ c.Clear (path ++ [id]) p := by
      intro p hp
      obtain ⟨y, hy⟩ := mapM_isOk_iff.mp ok p hp
      exact ih p y hy
    refine ⟨.intro he fun p hp => (parents p hp).1, fun a ha => ?_⟩
    rcases ReflTransGen.cases_head ha with rfl | ⟨p, hpar, hpa⟩
    · exact hid
    · exact fun hmem => (parents p (hpar.mem he)).2 a hpa (List.mem_append_left _ hmem)

theorem inherit_isOk_iff :
    (∃ x, c.inherit f path id child = .ok x) ↔ c.Grounded id ∧ c.Clear path id :=
  ⟨clear_of_isOk, fun h => isOk_of_clear f h.1 h.2 child⟩

theorem inherit_all_isOk_iff {ids : List String} :
    (∃ xs, (ids.mapM fun id => c.inherit f [] id none) = .ok xs) ↔ ∀ id ∈ ids, c.Grounded id := by
  rw [mapM_isOk_iff]
  refine forall₂_congr fun id _ => ?_
  rw [inherit_isOk_iff]
  exact and_iff_left (c.clear_nil id)

theorem inherit_eq_of_clear (hg : c.Grounded id) (h : c.Clear path id) (h' : c.Clear path' id) :
    c.inherit f path id child = c.inherit f path' id child' := by
  induction hg generalizing path path' child child' with
  | @intro id e held parents ih =>
    have grounded : c.Grounded id := .intro held parents
    rw [inherit_of_get h.not_mem held, inherit_of_get h'.not_mem held]
    congr 1
    refine mapM_congr fun p hp => ?_
    have edge : c.Parent id p := parent_of_mem held hp
    exact ih p hp (h.parent grounded edge) (h'.parent grounded edge)

/-- Where it succeeds, each endpoint is computed from its parents, each of these taken by itself. -/
theorem inherit_of_parents {xs : List α} (hg : c.Grounded id) (held : c.get? id = some e)
    (parents : List.Forall₂ (fun p x => c.inherit f [] p none = .ok x) e.parents xs) :
    c.inherit f [] id none = .ok (f e xs) := by
  have alone : ∀ p ∈ e.parents,
      c.inherit f ([] ++ [id]) p (some id) = c.inherit f [] p none := by
    intro p hp
    have edge : c.Parent id p := parent_of_mem held hp
    exact inherit_eq_of_clear (hg.parent edge) ((c.clear_nil id).parent hg edge) (c.clear_nil p)
  rw [inherit_of_get List.not_mem_nil held, mapM_congr alone, mapM_eq_ok_iff.mpr parents]
  rfl

/-- What plain recursion computes for an id, and `x` where it fails. -/
def inheritD (c : Catalog) (f : Endpoint → List α → α) (x : α) (id : String) : α :=
  (c.inherit f [] id none).toOption.getD x

theorem inherit_eq_inheritD (hg : c.Grounded id) (x : α) :
    c.inherit f [] id none = .ok (c.inheritD f x id) := by
  obtain ⟨y, hy⟩ := isOk_of_clear f hg (c.clear_nil id) none
  rw [inheritD, hy]
  rfl

theorem inheritD_eq (hg : c.Grounded id) (held : c.get? id = some e) (x : α) :
    c.inheritD f x id = f e (e.parents.map (c.inheritD f x)) := by
  have parents : List.Forall₂ (fun p y => c.inherit f [] p none = .ok y)
      e.parents (e.parents.map (c.inheritD f x)) := by
    refine List.forall₂_map_right_iff.mpr (List.forall₂_same.mpr fun p hp => ?_)
    exact inherit_eq_inheritD (hg.parent (parent_of_mem held hp)) x
  have whole := inherit_of_parents hg held parents
  rw [inherit_eq_inheritD hg x] at whole
  exact Except.ok.inj whole

/-! ### What is computed -/

theorem inherit_map {f' : Endpoint → List β → β} (k : α → β)
    (hk : ∀ e xs, k (f e xs) = f' e (xs.map k)) (path : List String) (id : String)
    (child : Option String) :
    (c.inherit f path id child).map k = c.inherit f' path id child := by
  induction path, id, child using inherit.induct c with
  | case1 path id child hmem => rw [inherit_of_mem hmem, inherit_of_mem hmem]; rfl
  | case2 path id child hid he => rw [inherit_of_missing hid he, inherit_of_missing hid he]; rfl
  | case3 path id child hid e he ih =>
    have values : (e.parents.mapM fun p => c.inherit f (path ++ [id]) p (some id)).map (List.map k)
        = e.parents.mapM fun p => c.inherit f' (path ++ [id]) p (some id) := by
      rw [mapM_map_ok]
      exact mapM_congr fun p _ => ih p
    rw [inherit_of_get hid he, inherit_of_get hid he, ← values]
    cases e.parents.mapM fun p => c.inherit f (path ++ [id]) p (some id) with
    | error err => rfl
    | ok xs => simp only [Except.map, hk]

theorem inherit_congr {c' : Catalog} (agree : ∀ a, c.Reaches id a →
      (c'.get? a).map (fun e => (e.parents, f e)) = (c.get? a).map fun e => (e.parents, f e)) :
    c'.inherit f path id child = c.inherit f path id child := by
  induction path, id, child using inherit.induct c with
  | case1 path id child hmem => rw [inherit_of_mem hmem, inherit_of_mem hmem]
  | case2 path id child hid he =>
    have here := agree id (Reaches.refl c id)
    rw [he, Option.map_none, Option.map_eq_none_iff] at here
    rw [inherit_of_missing hid he, inherit_of_missing hid here]
  | case3 path id child hid e he ih =>
    have here := agree id (Reaches.refl c id)
    rw [he, Option.map_some, Option.map_eq_some_iff] at here
    obtain ⟨e', he', same⟩ := here
    obtain ⟨hparents, hf⟩ := Prod.mk.inj same
    rw [inherit_of_get hid he, inherit_of_get hid he', hparents, hf]
    congr 1
    refine mapM_congr fun p hp => ih p fun a ha => ?_
    exact agree a (ha.of_parent (parent_of_mem he hp))

end Catalog

end PbxTemplates
