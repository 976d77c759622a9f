import Mathlib.Data.Fintype.Card
import Mathlib.Data.Set.Finite.Basic
import Mathlib.Logic.Relation
import PbxTemplates.Endpoint.Catalog

/-!
# Parents, ancestors and groundedness

The endpoints of a catalog form a graph whose edges lead from an endpoint to the ids that it lists
as parents, whether the catalog holds them or not. An id is *grounded* when its ancestry can be
built from below: the catalog holds it and all its parents are grounded. This is what the walk
establishes, one endpoint after the other. `grounded_iff` says the same of the graph as a whole:
nothing is missing among what the id reaches and no cycle is among it.
-/

namespace PbxTemplates.Catalog
open Relation

variable {c c' : Catalog} {a b id p : String} {e : Endpoint}

/-- `p` is among the parents that the endpoint of id `a` lists. -/
def Parent (c : Catalog) (a p : String) : Prop := ∃ e, c.get? a = some e ∧ p ∈ e.parents

/-- `b` is `a` itself or found by going from parent to parent. -/
def Reaches (c : Catalog) : String → String → Prop := ReflTransGen c.Parent

/-- `b` is a proper ancestor of `a`. -/
def Ancestor (c : Catalog) : String → String → Prop := TransGen c.Parent

theorem parent_of_mem (he : c.get? a = some e) (hp : p ∈ e.parents) : c.Parent a p := ⟨e, he, hp⟩

theorem Parent.mem (h : c.Parent a p) (he : c.get? a = some e) : p ∈ e.parents := by
  obtain ⟨e', he', hp⟩ := h
  have same : e' = e := Option.some.inj (he'.symm.trans he)
  exact same ▸ hp

theorem Parent.isSome (h : c.Parent a p) : (c.get? a).isSome := by
  obtain ⟨e, he, _⟩ := h
  simp [he]

theorem Reaches.refl (c : Catalog) (a : String) : c.Reaches a a := ReflTransGen.refl

theorem Reaches.of_parent (h : c.Parent a p) (hb : c.Reaches p b) : c.Reaches a b :=
  ReflTransGen.head h hb

/-- A set of ids that is closed under parents holds all that its elements reach. -/
theorem Reaches.mem_of_closed {s : String → Prop} (h : c.Reaches a b) (ha : s a)
    (closed : ∀ x p, s x → c.Parent x p → s p) : s b := by
  induction h with
  | refl => exact ha
  | tail _ hp ih => exact closed _ _ ih hp

/-- The second catalog holds the same as the first one at all ids that `id` reaches there. -/
def AgreesAbove (c c' : Catalog) (id : String) : Prop := ∀ a, c.Reaches id a → c'.get? a = c.get? a

theorem AgreesAbove.parent (h : c.AgreesAbove c' id) (ha : c.Reaches id a) (hp : c'.Parent a p) :
    c.Parent a p := by
  obtain ⟨e, he, hp⟩ := hp
  exact ⟨e, (h a ha).symm.trans he, hp⟩

theorem AgreesAbove.reaches (h : c.AgreesAbove c' id) (ha : c'.Reaches id a) : c.Reaches id a := by
  induction ha with
  | refl => exact Reaches.refl c id
  | tail _ hp ih => exact ReflTransGen.tail ih (h.parent ih hp)

theorem AgreesAbove.symm (h : c.AgreesAbove c' id) : c'.AgreesAbove c id := by
  intro a ha
  exact (h a (h.reaches ha)).symm

theorem AgreesAbove.ancestor (h : c.AgreesAbove c' id) (ha : c.Reaches id a)
    (hb : c'.Ancestor a b) : c.Ancestor a b := by
  induction hb with
  | single hp => exact TransGen.single (h.parent ha hp)
  | tail _ hp ih => exact TransGen.tail ih (h.parent (ha.trans ih.to_reflTransGen) hp)

/-! ### Grounded ids -/

/-- The catalog holds the id, and all its parents are grounded. -/
inductive Grounded (c : Catalog) : String → Prop
  | intro {id : String} {e : Endpoint} (held : c.get? id = some e)
      (parents : ∀ p ∈ e.parents, Grounded c p) : Grounded c id

theorem Grounded.isSome (h : c.Grounded id) : (c.get? id).isSome := by
  cases h with
  | intro held _ => simp [held]

theorem Grounded.parent (h : c.Grounded a) (hp : c.Parent a p) : c.Grounded p := by
  cases h with
  | intro held parents => exact parents p (hp.mem held)

theorem Grounded.reaches (h : c.Grounded a) (hb : c.Reaches a b) : c.Grounded b :=
  hb.mem_of_closed h fun _ _ hx hp => hx.parent hp

theorem Grounded.not_ancestor_self (h : c.Grounded id) : ¬ c.Ancestor id id := by
  induction h with
  | @intro id e held _ ih =>
    intro cycle
    -- a cycle through `id` is also one through the parent by which it leaves `id`
    obtain ⟨p, hp, back⟩ := TransGen.head'_iff.mp cycle
    exact ih p (hp.mem held) (TransGen.tail' back hp)

/-- The catalog holds all that the id reaches. -/
def Complete (c : Catalog) (id : String) : Prop := ∀ a, c.Reaches id a → (c.get? a).isSome

/-- The id reaches no endpoint that inherits from itself. -/
def Acyclic (c : Catalog) (id : String) : Prop := ∀ a, c.Reaches id a → ¬ c.Ancestor a a

theorem Complete.finite (h : c.Complete id) : Finite {a // c.Reaches id a} := by
  have sub : {a | c.Reaches id a} ⊆ {a | a ∈ c.ids} := by
    intro a ha
    obtain ⟨e, he⟩ := Option.isSome_iff_exists.mp (h a ha)
    exact mem_ids_of_get?_eq_some he
  exact (c.ids.finite_toSet.subset sub).to_subtype

/-- Going to a proper ancestor cannot go on for ever where there is no cycle: only finitely many ids
are reached. -/
theorem wellFounded_ancestor (hc : c.Complete id) (ha : c.Acyclic id) :
    WellFounded fun x y : {a // c.Reaches id a} => c.Ancestor y.1 x.1 := by
  have : Finite {a // c.Reaches id a} := hc.finite
  have : IsTrans {a // c.Reaches id a} fun x y => c.Ancestor y.1 x.1 :=
    ⟨fun _ _ _ hxy hyz => TransGen.trans hyz hxy⟩
  have : Std.Irrefl fun x y : {a // c.Reaches id a} => c.Ancestor y.1 x.1 :=
    ⟨fun x hx => ha x.1 x.2 hx⟩
  exact Finite.wellFounded_of_trans_of_irrefl _

theorem grounded_of_acyclic (hc : c.Complete id) (ha : c.Acyclic id) : c.Grounded id := by
  have all : ∀ x : {a // c.Reaches id a}, c.Grounded x.1 := by
    intro x
    induction x using (wellFounded_ancestor hc ha).induction with
    | _ x ih =>
      obtain ⟨e, he⟩ := Option.isSome_iff_exists.mp (hc x.1 x.2)
      refine .intro he fun p hp => ?_
      have edge : c.Parent x.1 p := parent_of_mem he hp
      exact ih ⟨p, ReflTransGen.tail x.2 edge⟩ (TransGen.single edge)
  exact all ⟨id, Reaches.refl c id⟩

theorem grounded_iff : c.Grounded id ↔ c.Complete id ∧ c.Acyclic id := by
  constructor
  · intro h
    exact ⟨fun a ha => (h.reaches ha).isSome, fun a ha => (h.reaches ha).not_ancestor_self⟩
  · rintro ⟨hc, ha⟩
    exact grounded_of_acyclic hc ha

end PbxTemplates.Catalog
