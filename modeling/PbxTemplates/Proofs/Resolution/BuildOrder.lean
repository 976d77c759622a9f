import PbxTemplates.Proofs.Catalog.Inheritance
import PbxTemplates.Resolution.Walk

/-!
# Lists of built endpoints

The endpoints that a walk has built form a list in which every endpoint stands after its parents.
`BuildOrder` describes these lists by how they grow: an endpoint that is not yet there is added at
the end, with a body made from those of its parents. All that is known of a built endpoint follows
from this: its ancestors stand in the list, it is grounded, and its body is the one that plain
recursion computes (`BuildOrder.inherit_body`).
-/

namespace PbxTemplates

theorem exists_of_forall₂ {α β : Type} {R : α → β → Prop} {l : List α} {ys : List β} {x : α}
    (h : List.Forall₂ R l ys) (hx : x ∈ l) : ∃ y ∈ ys, R x y := by
  induction h with
  | nil => cases hx
  | cons hR _ ih =>
    rcases List.mem_cons.mp hx with rfl | hx
    · exact ⟨_, List.mem_cons_self, hR⟩
    · obtain ⟨y, hy, hxy⟩ := ih hx
      exact ⟨y, List.mem_cons_of_mem _ hy, hxy⟩

namespace Graph

/-- An endpoint of the given id and body stands in the list. -/
def HasBody (built : List BuiltEndpoint) (id : String) (body : Sections) : Prop :=
  ∃ b ∈ built, b.endpoint.id = id ∧ b.body = body

/-- The list is built one endpoint after the other. Each is in the catalog and comes once, its owner
is the one in the table, and its body is made from the bodies of parents that stand before it. -/
inductive BuildOrder (g : Graph) : List BuiltEndpoint → Prop
  | nil : BuildOrder g []
  | snoc {built : List BuiltEndpoint} {e : Endpoint} {bodies : List Sections}
      (earlier : BuildOrder g built) (held : g.catalog.get? e.id = some e)
      (fresh : ∀ b ∈ built, b.endpoint.id ≠ e.id)
      (parents : List.Forall₂ (HasBody built) e.parents bodies) :
      BuildOrder g (built ++ [.ofParents g.canonicalizer e (g.owners.get? e.id) bodies])

namespace BuildOrder

variable {g : Graph} {built : List BuiltEndpoint} {b : BuiltEndpoint} {a p : String}

/-- How any endpoint of the list was added to those before it. -/
theorem split (h : g.BuildOrder built) (hb : b ∈ built) :
    ∃ before after bodies, built = before ++ b :: after ∧ g.BuildOrder before ∧
      g.catalog.get? b.endpoint.id = some b.endpoint ∧
      List.Forall₂ (HasBody before) b.endpoint.parents bodies ∧
      b = .ofParents g.canonicalizer b.endpoint (g.owners.get? b.endpoint.id) bodies := by
  induction h with
  | nil => cases hb
  | @snoc built e bodies earlier held _ parents ih =>
    rcases List.mem_append.mp hb with hb | hb
    · obtain ⟨before, after, bodies, hbuilt, rest⟩ := ih hb
      exact ⟨before, after ++ _, bodies, by rw [hbuilt, List.append_assoc, List.cons_append], rest⟩
    · obtain rfl := List.mem_singleton.mp hb
      exact ⟨built, [], bodies, rfl, earlier, held, parents, rfl⟩

theorem held (h : g.BuildOrder built) (hb : b ∈ built) :
    g.catalog.get? b.endpoint.id = some b.endpoint := by
  obtain ⟨_, _, _, _, _, held, _⟩ := h.split hb
  exact held

theorem owner_eq (h : g.BuildOrder built) (hb : b ∈ built) :
    b.owner = g.owners.get? b.endpoint.id := by
  obtain ⟨_, _, _, _, _, _, _, made⟩ := h.split hb
  exact congrArg BuiltEndpoint.owner made

theorem nodup_ids (h : g.BuildOrder built) : (built.map (·.endpoint.id)).Nodup := by
  induction h with
  | nil => exact List.nodup_nil
  | @snoc built e bodies _ _ fresh _ ih =>
    rw [List.map_append, List.nodup_append]
    refine ⟨ih, List.nodup_singleton _, ?_⟩
    intro x hx y hy
    obtain ⟨b, hb, rfl⟩ := List.mem_map.mp hx
    have hy : y = e.id := List.mem_singleton.mp hy
    exact hy ▸ fresh b hb

theorem parent_mem (h : g.BuildOrder built) (hb : b ∈ built)
    (hp : g.catalog.Parent b.endpoint.id p) : ∃ b' ∈ built, b'.endpoint.id = p := by
  obtain ⟨before, after, bodies, hbuilt, _, held, parents, _⟩ := h.split hb
  obtain ⟨_, _, b', hb', hid, _⟩ := exists_of_forall₂ parents (hp.mem held)
  exact ⟨b', hbuilt ▸ List.mem_append_left _ hb', hid⟩

theorem reaches_mem (h : g.BuildOrder built) (hb : b ∈ built)
    (ha : g.catalog.Reaches b.endpoint.id a) : ∃ b' ∈ built, b'.endpoint.id = a := by
  refine ha.mem_of_closed (s := fun a => ∃ b' ∈ built, b'.endpoint.id = a) ⟨b, hb, rfl⟩ ?_
  rintro x p ⟨b', hb', rfl⟩ hp
  exact h.parent_mem hb' hp

theorem pairwise_not_ancestor (h : g.BuildOrder built) :
    built.Pairwise fun first later => ¬ g.catalog.Ancestor first.endpoint.id later.endpoint.id := by
  induction h with
  | nil => exact .nil
  | snoc earlier _ fresh _ ih =>
    refine List.pairwise_append.mpr ⟨ih, List.pairwise_singleton _ _, ?_⟩
    intro b hb b' hb' ancestor
    obtain rfl := List.mem_singleton.mp hb'
    -- the ancestors of what was built earlier were built earlier, and this one was not
    obtain ⟨b'', hb'', hid⟩ := earlier.reaches_mem hb ancestor.to_reflTransGen
    exact fresh b'' hb'' hid

theorem grounded (h : g.BuildOrder built) (hb : b ∈ built) :
    g.catalog.Grounded b.endpoint.id := by
  induction h generalizing b with
  | nil => cases hb
  | @snoc built e bodies _ held _ parents ih =>
    rcases List.mem_append.mp hb with hb | hb
    · exact ih hb
    · obtain rfl := List.mem_singleton.mp hb
      refine .intro held fun p hp => ?_
      obtain ⟨_, _, b', hb', rfl, _⟩ := exists_of_forall₂ parents hp
      exact ih hb'

theorem inherit_body (h : g.BuildOrder built) (hb : b ∈ built) :
    g.catalog.inherit (Endpoint.body g.canonicalizer) [] b.endpoint.id none = .ok b.body := by
  have grounded : g.catalog.Grounded b.endpoint.id := h.grounded hb
  induction h generalizing b with
  | nil => cases hb
  | @snoc built e bodies earlier held _ parents ih =>
    rcases List.mem_append.mp hb with hb | hb
    · exact ih hb grounded
    · obtain rfl := List.mem_singleton.mp hb
      refine Catalog.inherit_of_parents grounded held (parents.imp ?_)
      rintro p body ⟨b', hb', rfl, rfl⟩
      exact ih hb' (earlier.grounded hb')

end BuildOrder

end Graph

end PbxTemplates
