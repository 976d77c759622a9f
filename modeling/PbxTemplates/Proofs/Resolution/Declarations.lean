import PbxTemplates.Proofs.Resolution.FlatMerge
import PbxTemplates.Proofs.Resolution.Lineage

/-!
# What an endpoint and its ancestors declare

The raw entries that come together at an id are those that the endpoint and its ancestors declare,
and no others. Of an entry with a repeatable key this is all that the body tells
(`mem_values_body_iff`).
-/

namespace PbxTemplates.Catalog

variable {catalog : Catalog} {c : Canonicalizer} {body : Sections} {id key v : String}
  {kind : SectionKind} {entry : Entry}

/-- The endpoint of the id or one of its ancestors declares this entry. -/
def DeclaresEntry (catalog : Catalog) (id : String) (kind : SectionKind) (entry : Entry) : Prop :=
  ∃ a e, catalog.Reaches id a ∧ catalog.get? a = some e ∧ entry ∈ e.sections.get kind

/-- The endpoint of the id or one of its ancestors declares an entry of this key. -/
def Declares (catalog : Catalog) (id : String) (kind : SectionKind) (key : String) : Prop :=
  ∃ a e, catalog.Reaches id a ∧ catalog.get? a = some e ∧ key ∈ (e.sections.get kind).keys

theorem rawEntries_eq_flatMap_lineage (h : catalog.Grounded id) :
    catalog.rawEntries kind id = (catalog.lineage id).flatMap (·.sections.get kind) := by
  induction h with
  | @intro id e held parents ih =>
    have grounded : catalog.Grounded id := .intro held parents
    rw [rawEntries_eq grounded held, lineage_eq grounded held, List.flatMap_append,
      List.flatMap_assoc, List.flatMap_congr ih, List.flatMap_singleton]

theorem mem_rawEntries_iff (h : catalog.Grounded id) :
    entry ∈ catalog.rawEntries kind id ↔ catalog.DeclaresEntry id kind entry := by
  rw [rawEntries_eq_flatMap_lineage h, List.mem_flatMap]
  constructor
  · rintro ⟨e, he, hentry⟩
    obtain ⟨reached, held⟩ := (mem_lineage_iff h).mp he
    exact ⟨e.id, e, reached, held, hentry⟩
  · rintro ⟨a, e, reached, held, hentry⟩
    obtain rfl : e.id = a := id_of_get?_eq_some held
    exact ⟨e, (mem_lineage_iff h).mpr ⟨reached, held⟩, hentry⟩

theorem mem_keys_rawEntries_iff (h : catalog.Grounded id) :
    key ∈ (catalog.rawEntries kind id).keys ↔ catalog.Declares id kind key := by
  constructor
  · intro hk
    obtain ⟨entry, hentry, rfl⟩ := List.mem_map.mp hk
    obtain ⟨a, e, reached, held, hentry⟩ := (mem_rawEntries_iff h).mp hentry
    exact ⟨a, e, reached, held, List.mem_map_of_mem hentry⟩
  · rintro ⟨a, e, reached, held, hk⟩
    obtain ⟨entry, hentry, rfl⟩ := List.mem_map.mp hk
    exact List.mem_map_of_mem ((mem_rawEntries_iff h).mpr ⟨a, e, reached, held, hentry⟩)

theorem mem_values_body_iff (h : catalog.inherit (Endpoint.body c) [] id none = .ok body)
    (repeatable : c.isRepeatable key = true) :
    v ∈ (body.get kind).values key ↔ catalog.DeclaresEntry id kind ⟨key, v⟩ := by
  have grounded : catalog.Grounded id := (clear_of_isOk ⟨body, h⟩).1
  rw [body_get_of_inherit h, Canonicalizer.values_canonicalize, if_pos repeatable,
    List.mem_eraseDups, Section.mem_values_iff, mem_rawEntries_iff grounded]

end PbxTemplates.Catalog
