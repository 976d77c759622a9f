import Mathlib.Data.List.Chain
import Mathlib.Data.List.Nodup
import PbxTemplates.Proofs.Catalog.Inheritance

/-!
# What is wrong with an ancestry

An id is broken when it reaches something that the catalog does not hold or an endpoint that
inherits from itself. Plain recursion fails for the broken ids and for no others, and its error
names a defect that is really there (`inherit_fault`): an id that is absent, or a cycle.
-/

namespace PbxTemplates.Catalog
open Relation

universe u

variable {α : Type u} {f : Endpoint → List α → α} {c : Catalog} {path : List String}
  {origin id p : String} {child : Option String} {err : ResolutionError}

/-- The id reaches one that the catalog does not hold, or an endpoint that inherits from itself. -/
def Broken (c : Catalog) (id : String) : Prop :=
  ∃ a, c.Reaches id a ∧ (c.get? a = none ∨ c.Ancestor a a)

theorem not_broken_iff : ¬ c.Broken id ↔ c.Grounded id := by
  rw [grounded_iff]
  constructor
  · intro h
    refine ⟨fun a ha => ?_, fun a ha cycle => h ⟨a, ha, .inr cycle⟩⟩
    cases held : c.get? a with
    | none => exact absurd ⟨a, ha, .inl held⟩ h
    | some e => rfl
  · rintro ⟨complete, acyclic⟩ ⟨a, ha, absent | cycle⟩
    · have held := complete a ha
      rw [absent] at held
      cases held
    · exact acyclic a ha cycle

/-- The chain leads from each id to one of its parents and ends with the id that it begins with. No
other id comes twice. -/
structure IsCycle (c : Catalog) (chain : List String) : Prop where
  two_le : 2 ≤ chain.length
  closed : chain.head? = chain.getLast?
  nodup : chain.dropLast.Nodup
  held : ∀ a ∈ chain, (c.get? a).isSome
  parents : chain.IsChain c.Parent

/-- The error names a defect of what the id reaches. -/
inductive Fault (c : Catalog) (origin : String) : ResolutionError → Prop
  | unknown (absent : c.get? origin = none) : Fault c origin (.unknownEndpoint origin)
  | missing {a p : String} (reached : c.Reaches origin a) (parent : c.Parent a p)
      (absent : c.get? p = none) : Fault c origin (.missingParent a p)
  | cycle {a : String} {chain : List String} (reached : c.Reaches origin a)
      (first : chain.head? = some a) (cycle : c.IsCycle chain) :
      Fault c origin (.inheritanceCycle chain)

/-! ### Trails -/

/-- A recursion that began with `origin` has come to `id` by this path, which ends with `child`. -/
structure Trail (c : Catalog) (origin : String) (path : List String) (id : String)
    (child : Option String) : Prop where
  nodup : path.Nodup
  parents : (path ++ [id]).IsChain c.Parent
  last : child.elim (id = origin) fun a => c.Reaches origin a ∧ c.Parent a id

theorem Trail.nil (c : Catalog) (id : String) : c.Trail id [] id none :=
  ⟨List.nodup_nil, List.isChain_singleton id, rfl⟩

theorem Trail.reaches (h : c.Trail origin path id child) : c.Reaches origin id := by
  have last := h.last
  cases child with
  | none => exact last ▸ Reaches.refl c id
  | some a => exact ReflTransGen.tail last.1 last.2

theorem Trail.snoc (h : c.Trail origin path id child) (hid : id ∉ path) (hp : c.Parent id p) :
    c.Trail origin (path ++ [id]) p (some id) := by
  refine ⟨?_, ?_, h.reaches, hp⟩
  · rw [← List.concat_eq_append]
    exact List.Nodup.concat hid h.nodup
  · refine h.parents.append (List.isChain_singleton p) ?_
    intro a ha b hb
    have ha : id = a := by simpa using ha
    have hb : p = b := by simpa using hb
    exact ha ▸ hb ▸ hp

theorem isSome_of_isChain {l : List String} (h : (l ++ [id]).IsChain c.Parent) :
    ∀ a ∈ l, (c.get? a).isSome := by
  intro a ha
  obtain ⟨before, after, rfl⟩ := List.append_of_mem ha
  -- whatever stands after `a` in the list, the chain goes on with a parent of it
  obtain ⟨p, rest, hrest⟩ : ∃ p rest, after ++ [id] = p :: rest := by
    cases after with
    | nil => exact ⟨id, [], rfl⟩
    | cons p after => exact ⟨p, after ++ [id], rfl⟩
  rw [List.append_assoc, List.cons_append, hrest] at h
  exact (List.isChain_cons_cons.mp h.right_of_append).1.isSome

/-- When the recursion comes back to an id, the path from there on is a cycle. -/
theorem Trail.isCycle (h : c.Trail origin path id child) (hid : id ∈ path) :
    c.IsCycle (path.drop (path.idxOf id) ++ [id]) := by
  have place : path.idxOf id < path.length := List.idxOf_lt_length_of_mem hid
  have begins : path.drop (path.idxOf id) = id :: path.drop (path.idxOf id + 1) := by
    rw [List.drop_eq_getElem_cons place, List.getElem_idxOf]
  have parents : (path.drop (path.idxOf id) ++ [id]).IsChain c.Parent := by
    have whole := h.parents.drop (path.idxOf id)
    rwa [List.drop_append_of_le_length place.le] at whole
  have held := isSome_of_isChain parents
  refine ⟨?_, ?_, ?_, ?_, parents⟩
  · rw [begins]
    simp
  · rw [List.getLast?_concat, begins]
    rfl
  · rw [List.dropLast_concat]
    exact h.nodup.sublist (List.drop_sublist _ _)
  · intro a ha
    rcases List.mem_append.mp ha with ha | ha
    · exact held a ha
    · rw [List.mem_singleton.mp ha]
      exact held id (begins ▸ List.mem_cons_self)

/-! ### Errors of plain recursion -/

theorem Trail.fault (h : c.Trail origin path id child)
    (fails : c.inherit f path id child = .error err) : c.Fault origin err := by
  induction path, id, child using inherit.induct c generalizing err with
  | case1 path id child hid =>
    rw [inherit_of_mem hid] at fails
    cases fails
    have cycle := h.isCycle hid
    refine .cycle h.reaches ?_ cycle
    rw [cycle.closed, List.getLast?_concat]
  | case2 path id child hid absent =>
    rw [inherit_of_missing hid absent] at fails
    cases fails
    have last := h.last
    cases child with
    | none =>
      obtain rfl : id = origin := last
      exact .unknown absent
    | some a => exact .missing last.1 last.2 absent
  | case3 path id child hid e held ih =>
    rw [inherit_of_get hid held] at fails
    cases parents : e.parents.mapM fun p => c.inherit f (path ++ [id]) p (some id) with
    | ok ys =>
      rw [parents] at fails
      cases fails
    | error err' =>
      rw [parents] at fails
      cases fails
      -- the error comes from one parent, and the trail goes on to it
      obtain ⟨i, p, hp, first, _⟩ := mapM_eq_error_iff.mp parents
      have edge : c.Parent id p := parent_of_mem held (List.mem_of_getElem? hp)
      exact ih p (h.snoc hid edge) first

theorem inherit_fault (fails : c.inherit f [] id none = .error err) : c.Fault id err :=
  (Trail.nil c id).fault fails

/-- Plain recursion fails for a broken id, with an error that names a defect. -/
theorem Broken.fails (h : c.Broken id) (f : Endpoint → List α → α) :
    ∃ err, c.inherit f [] id none = .error err ∧ c.Fault id err := by
  cases value : c.inherit f [] id none with
  | ok x => exact absurd h (not_broken_iff.mpr (clear_of_isOk ⟨x, value⟩).1)
  | error err => exact ⟨err, rfl, inherit_fault value⟩

end PbxTemplates.Catalog
