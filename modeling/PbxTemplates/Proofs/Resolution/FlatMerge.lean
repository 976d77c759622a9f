import PbxTemplates.Proofs.Resolution.Recursion
import PbxTemplates.Proofs.Section.Canonical

/-!
# Inheritance as one merge

A body is made canonical at every level: from the canonical bodies of the parents and the entries of
the endpoint itself. Nothing would change if this were done once, at the end, with all the entries
that were declared on the way. `Catalog.rawEntries` are these entries, and `body_eq_canonicalize`
says that the body of an endpoint is their canonical form.
-/

namespace PbxTemplates

/-- The raw entries of an endpoint in one section: those of its parents in the order in which it
lists them, then its own. -/
def Endpoint.rawEntries (kind : SectionKind) (e : Endpoint) (parents : List Section) : Section :=
  parents.flatten ++ e.sections.get kind

namespace Catalog

variable {catalog : Catalog} {id : String} {e : Endpoint}

/-- The raw entries that come together at an id, those of an ancestor once for each route to it. -/
def rawEntries (catalog : Catalog) (kind : SectionKind) (id : String) : Section :=
  (catalog.inherit (Endpoint.rawEntries kind) [] id none).toOption.getD []

theorem inherit_rawEntries (h : catalog.Grounded id) (kind : SectionKind) :
    catalog.inherit (Endpoint.rawEntries kind) [] id none = .ok (catalog.rawEntries kind id) :=
  inherit_eq_inheritD h []

theorem rawEntries_eq (h : catalog.Grounded id) (held : catalog.get? id = some e)
    (kind : SectionKind) : catalog.rawEntries kind id
      = e.parents.flatMap (catalog.rawEntries kind) ++ e.sections.get kind := by
  have level : catalog.rawEntries kind id
      = e.rawEntries kind (e.parents.map (catalog.rawEntries kind)) := inheritD_eq h held []
  rw [level, Endpoint.rawEntries, List.flatMap_def]

/-- Making the section canonical at every level or once at the end comes to the same, failures
included. -/
theorem inherit_body_get (c : Canonicalizer) (catalog : Catalog) (kind : SectionKind)
    (path : List String) (id : String) (child : Option String) :
    (catalog.inherit (Endpoint.body c) path id child).map (·.get kind)
      = (catalog.inherit (Endpoint.rawEntries kind) path id child).map c.canonicalize := by
  -- both are the recursion on one section that makes it canonical at every level
  let level (e : Endpoint) (parents : List Section) : Section :=
    c.canonicalize (parents.flatten ++ e.sections.get kind)
  calc (catalog.inherit (Endpoint.body c) path id child).map (·.get kind)
      = catalog.inherit level path id child := by
        refine inherit_map (fun body : Sections => body.get kind) (fun e bodies => ?_) path id child
        rw [Endpoint.body, Sections.get_ofFn, List.flatMap_def]
    _ = (catalog.inherit (Endpoint.rawEntries kind) path id child).map c.canonicalize := by
        refine (inherit_map c.canonicalize (fun e streams => ?_) path id child).symm
        exact (Canonicalizer.canonicalize_flatten_append streams).symm

theorem grounded_of_ancestors (held : catalog.get? e.id = some e)
    (exist : ∀ a, catalog.Ancestor e.id a → (catalog.get? a).isSome)
    (acyclic : ∀ a, catalog.Reaches e.id a → ¬ catalog.Ancestor a a) : catalog.Grounded e.id := by
  refine grounded_of_acyclic (fun a ha => ?_) acyclic
  rcases Relation.reflTransGen_iff_eq_or_transGen.mp ha with rfl | ha
  · simp [held]
  · exact exist a ha

theorem body_get_of_inherit {c : Canonicalizer} {body : Sections}
    (h : catalog.inherit (Endpoint.body c) [] id none = .ok body) (kind : SectionKind) :
    body.get kind = c.canonicalize (catalog.rawEntries kind id) := by
  have grounded : catalog.Grounded id := (clear_of_isOk ⟨body, h⟩).1
  have merge := inherit_body_get c catalog kind [] id none
  rw [h, inherit_rawEntries grounded kind] at merge
  exact Except.ok.inj merge

end Catalog

namespace Graph

variable {g : Graph} {built : List BuiltEndpoint} {b : BuiltEndpoint} {d : Endpoint}

/-- The walk from the id of a grounded endpoint builds it. -/
theorem exists_built (held : g.catalog.get? d.id = some d) (h : g.catalog.Grounded d.id) :
    ∃ b ∈ (g.walk [d.id]).2.built, b.endpoint = d := by
  obtain ⟨is, hw⟩ := walk_isOk_iff.mpr (List.forall_mem_singleton.mpr h)
  have reached : ∃ id ∈ [d.id], g.catalog.Reaches id d.id :=
    ⟨d.id, List.mem_singleton_self d.id, Catalog.Reaches.refl _ _⟩
  obtain ⟨b, hb, hid⟩ := (mem_walk_iff hw d.id).mpr reached
  have same := (g.walk_progress [d.id]).1.coherent.order.held hb
  rw [hid, held] at same
  exact ⟨b, hb, (Option.some.inj same).symm⟩

theorem BuildOrder.body_get (h : g.BuildOrder built) (hb : b ∈ built) (kind : SectionKind) :
    b.body.get kind = g.canonicalizer.canonicalize (g.catalog.rawEntries kind b.endpoint.id) :=
  Catalog.body_get_of_inherit (h.inherit_body hb) kind

/-- An endpoint whose ancestors exist and are not in a cycle is built by the walk from its id.
Whatever walk builds it, its body is the canonical form of the raw entries that come together at its
id, and these are the raw entries of its parents followed by its own. -/
theorem body_eq_canonicalize (g : Graph) (d : Endpoint) (held : g.catalog.get? d.id = some d)
    (exist : ∀ a, g.catalog.Ancestor d.id a → (g.catalog.get? a).isSome)
    (acyclic : ∀ a, g.catalog.Reaches d.id a → ¬ g.catalog.Ancestor a a) :
    (∃ b ∈ (g.walk [d.id]).2.built, b.endpoint = d) ∧
    (∀ ids, ∀ b ∈ (g.walk ids).2.built, b.endpoint = d → ∀ kind,
      b.body.get kind = g.canonicalizer.canonicalize (g.catalog.rawEntries kind d.id)) ∧
    ∀ kind a e, g.catalog.Reaches d.id a → g.catalog.get? a = some e →
      g.catalog.rawEntries kind a
        = e.parents.flatMap (g.catalog.rawEntries kind) ++ e.sections.get kind := by
  have grounded : g.catalog.Grounded d.id := Catalog.grounded_of_ancestors held exist acyclic
  refine ⟨exists_built held grounded, ?_, ?_⟩
  · rintro ids b hb rfl kind
    exact (g.walk_progress ids).1.coherent.order.body_get hb kind
  · intro kind a e ha he
    exact Catalog.rawEntries_eq (grounded.reaches ha) he kind

/-- A phone that inherits from a base template by three routes. -/
def deskPhone : Endpoint where
  id := "desk"
  name := "desk"
  tenantId := "t"
  parents := ["left", "right", "left"]
  sections := { endpoint := [⟨"context", "desk"⟩] }

def diamond : Catalog where
  endpoints := [deskPhone,
    { id := "left", name := "left", tenantId := "t", isTemplate := true, parents := ["base"],
      sections := { endpoint := [⟨"set_var", "L=1"⟩] } },
    { id := "right", name := "right", tenantId := "t", isTemplate := true, parents := ["base"],
      sections := { endpoint := [⟨"language", "fr"⟩] } },
    { id := "base", name := "base", tenantId := "t", isTemplate := true,
      sections := { endpoint := [⟨"context", "base"⟩, ⟨"set_var", "B=1"⟩, ⟨"language", "en"⟩] } }]
  nodup_ids := by decide

theorem grounded_diamond : diamond.Grounded "base" ∧ diamond.Grounded "left" ∧
    diamond.Grounded "right" ∧ diamond.Grounded "desk" := by
  have base : diamond.Grounded "base" := .intro rfl (by simp)
  have left : diamond.Grounded "left" := .intro rfl (by simpa using base)
  have right : diamond.Grounded "right" := .intro rfl (by simpa using base)
  exact ⟨base, left, right, .intro (e := deskPhone) rfl (by simp [deskPhone, left, right])⟩

theorem body_deskPhone :
    ∃ b ∈ (Graph.walk ⟨.standard, diamond, ∅⟩ ["desk"]).2.built, b.endpoint = deskPhone ∧
      b.body.endpoint =
        [⟨"context", "desk"⟩, ⟨"language", "en"⟩, ⟨"set_var", "B=1"⟩, ⟨"set_var", "L=1"⟩] := by
  obtain ⟨base, left, right, desk⟩ := grounded_diamond
  obtain ⟨complete, acyclic⟩ := Catalog.grounded_iff.mp desk
  obtain ⟨⟨b, hb, hd⟩, merged, raw⟩ := body_eq_canonicalize ⟨.standard, diamond, ∅⟩ deskPhone rfl
    (fun a ha => complete a ha.to_reflTransGen) acyclic
  refine ⟨b, hb, hd, (merged ["desk"] b hb hd .endpoint).trans ?_⟩
  have hbase := Catalog.rawEntries_eq base rfl .endpoint
  have hleft := Catalog.rawEntries_eq left rfl .endpoint
  have hright := Catalog.rawEntries_eq right rfl .endpoint
  have hdesk := raw .endpoint "desk" deskPhone (Catalog.Reaches.refl _ _) rfl
  simp only [deskPhone, List.flatMap_cons, List.flatMap_nil, hleft, hright, hbase] at hdesk
  exact (congrArg _ hdesk).trans (by decide)

end Graph

end PbxTemplates
