import PbxTemplates.Proofs.Resolution.Declarations

/-!
# The closest definition wins

A body is made forwards: what comes later in the stream overwrites what came earlier, at every level
again. The value of a key that may not repeat can also be found backwards, without any body: in the
endpoint's own entries, else in the first parent that leads to a value, from the last parent to the
first (`Catalog.closest?`). `closest_definition_wins` says that both ways lead to the same value,
and that of a key that may repeat no value is lost.
-/

namespace PbxTemplates

theorem Section.value?_flatten {parts : List Section} {key : String} :
    Section.value? parts.flatten key
      = (parts.map fun s => s.value? key).reverse.findSome? fun value => value := by
  induction parts with
  | nil => rfl
  | cons s parts ih =>
    rw [List.flatten_cons, value?_append, ih, List.map_cons, List.reverse_cons,
      List.findSome?_append, List.findSome?_singleton]

/-- The value of a key from those found at the parents. -/
def Endpoint.closest? (kind : SectionKind) (key : String) (e : Endpoint)
    (parents : List (Option String)) : Option String :=
  ((e.sections.get kind).value? key).or (parents.reverse.findSome? fun value => value)

namespace Catalog

variable {catalog : Catalog} {id key : String} {kind : SectionKind} {e : Endpoint}

/-- The value of a key that is found going back from an id. -/
def closest? (catalog : Catalog) (kind : SectionKind) (key : String) : String → Option String :=
  catalog.inheritD (Endpoint.closest? kind key) none

theorem closest?_eq (h : catalog.Grounded id) (held : catalog.get? id = some e) :
    catalog.closest? kind key id = ((e.sections.get kind).value? key).or
      (e.parents.reverse.findSome? (catalog.closest? kind key)) := by
  rw [closest?, inheritD_eq h held, Endpoint.closest?, ← List.map_reverse, List.findSome?_map]
  rfl

/-- Looking back for a key while the entries come together finds what stands last in the end. -/
theorem value?_rawEntries (h : catalog.Grounded id) :
    (catalog.rawEntries kind id).value? key = catalog.closest? kind key id := by
  have level : ∀ (e : Endpoint) (parents : List Section), (e.rawEntries kind parents).value? key
      = e.closest? kind key (parents.map fun s => s.value? key) := by
    intro e parents
    rw [Endpoint.rawEntries, Endpoint.closest?, Section.value?_append, Section.value?_flatten]
  have fused := inherit_map (c := catalog) (fun s : Section => s.value? key) level [] id none
  rw [inherit_rawEntries h, inherit_eq_inheritD h none] at fused
  exact Except.ok.inj fused

theorem value?_body {c : Canonicalizer} {body : Sections}
    (h : catalog.inherit (Endpoint.body c) [] id none = .ok body)
    (single : c.isRepeatable key = false) :
    (body.get kind).value? key = catalog.closest? kind key id := by
  have grounded : catalog.Grounded id := (clear_of_isOk ⟨body, h⟩).1
  rw [body_get_of_inherit h, Canonicalizer.value?_canonicalize single, value?_rawEntries grounded]

theorem nodup_values_body {c : Canonicalizer} {body : Sections}
    (h : catalog.inherit (Endpoint.body c) [] id none = .ok body)
    (repeatable : c.isRepeatable key = true) : ((body.get kind).values key).Nodup := by
  rw [body_get_of_inherit h, Canonicalizer.values_canonicalize, if_pos repeatable]
  exact nodup_eraseDups _

end Catalog

namespace Graph

/-- An endpoint whose ancestors exist and are not in a cycle is built by the walk from its id.
Whatever walk builds it, its body gives a key that may not repeat the value that is found going back
from the endpoint: its own last one, else the first one found at its parents from the last to the
first. A key that may repeat has each value that the endpoint or an ancestor declares once. -/
theorem closest_definition_wins (g : Graph) (d : Endpoint)
    (held : g.catalog.get? d.id = some d)
    (exist : ∀ a, g.catalog.Ancestor d.id a → (g.catalog.get? a).isSome)
    (acyclic : ∀ a, g.catalog.Reaches d.id a → ¬ g.catalog.Ancestor a a) :
    (∃ b ∈ (g.walk [d.id]).2.built, b.endpoint = d) ∧
    (∀ ids, ∀ b ∈ (g.walk ids).2.built, b.endpoint = d → ∀ kind key,
      (g.canonicalizer.isRepeatable key = false →
        (b.body.get kind).value? key = g.catalog.closest? kind key d.id) ∧
      (g.canonicalizer.isRepeatable key = true →
        ((b.body.get kind).values key).Nodup ∧
        ∀ v, v ∈ (b.body.get kind).values key ↔ g.catalog.DeclaresEntry d.id kind ⟨key, v⟩)) ∧
    ∀ kind key a e, g.catalog.Reaches d.id a → g.catalog.get? a = some e →
      g.catalog.closest? kind key a = ((e.sections.get kind).value? key).or
        (e.parents.reverse.findSome? (g.catalog.closest? kind key)) := by
  have grounded : g.catalog.Grounded d.id := Catalog.grounded_of_ancestors held exist acyclic
  refine ⟨exists_built held grounded, ?_, ?_⟩
  · rintro ids b hb rfl kind key
    have body := (g.walk_progress ids).1.coherent.order.inherit_body hb
    refine ⟨Catalog.value?_body body, fun repeatable => ?_⟩
    exact ⟨Catalog.nodup_values_body body repeatable,
      fun v => Catalog.mem_values_body_iff body repeatable⟩
  · intro kind key a e ha he
    exact Catalog.closest?_eq (grounded.reaches ha) he

/-- The last parent of the phone has no language of its own. The one of its template wins over that
of the parent before it. -/
theorem closest_deskPhone :
    ∃ b ∈ (Graph.walk ⟨.standard, diamond, ∅⟩ ["desk"]).2.built, b.endpoint = deskPhone ∧
      b.body.endpoint.value? "language" = some "en" ∧
      (b.body.endpoint.values "set_var").Nodup ∧ "B=1" ∈ b.body.endpoint.values "set_var" := by
  obtain ⟨_, _, _, desk⟩ := grounded_diamond
  obtain ⟨complete, acyclic⟩ := Catalog.grounded_iff.mp desk
  obtain ⟨⟨b, hb, hd⟩, wins, closest⟩ := closest_definition_wins ⟨.standard, diamond, ∅⟩ deskPhone
    rfl (fun a ha => complete a ha.to_reflTransGen) acyclic
  have toLeft : diamond.Reaches "desk" "left" := .single ⟨deskPhone, rfl, by decide⟩
  have toBase : diamond.Reaches "desk" "base" := toLeft.tail ⟨_, rfl, by decide⟩
  have atBase : diamond.closest? .endpoint "language" "base" = some "en" :=
    (closest .endpoint "language" "base" _ toBase rfl).trans (by decide)
  have atLeft : diamond.closest? .endpoint "language" "left" = some "en" := by
    refine (closest .endpoint "language" "left" _ toLeft rfl).trans ?_
    simp [Sections.get, Section.value?, Section.values, atBase]
  have atDesk : diamond.closest? .endpoint "language" "desk" = some "en" := by
    refine (closest .endpoint "language" "desk" deskPhone (Catalog.Reaches.refl _ _) rfl).trans ?_
    simp [deskPhone, Sections.get, Section.value?, Section.values, atLeft]
  refine ⟨b, hb, hd, ?_, ?_⟩
  · exact ((wins _ b hb hd .endpoint "language").1 (by decide)).trans atDesk
  · obtain ⟨nodup, declared⟩ := (wins _ b hb hd .endpoint "set_var").2 (by decide)
    exact ⟨nodup, (declared "B=1").mpr ⟨"base", _, toBase, rfl, by decide⟩⟩

end Graph

end PbxTemplates
