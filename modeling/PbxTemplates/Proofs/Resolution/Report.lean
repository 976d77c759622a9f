import PbxTemplates.Proofs.Json.Document
import PbxTemplates.Proofs.Json.OneLine
import PbxTemplates.Proofs.Section.Form
import PbxTemplates.Resolution.Report

/-!
# Reports can be read again

A resolution is written in four ways: indented or on one line, with its counts or without them. All
four texts are well-formed and say the same records, from which the records of the resolution can be
decoded (`render_carries_records`).
-/

namespace PbxTemplates
open Form Record

variable {depth : Nat}

/-! ### Records -/

theorem SectionKind.name_injective : Function.Injective name := by
  intro j k h
  have same := congrArg ofName? h
  rw [ofName?_name, ofName?_name] at same
  exact Option.some.inj same

theorem Sections.write_finished (s : Sections) : finished.write s = SectionKind.byName.flatMap
    fun kind => (unlessEmpty kind.name (buffered Section.form)).write (s.get kind) := by
  simp [finished, recordOf, SectionKind.byName, Record.and, Record.convert, get]

theorem Sections.mem_names_finished {s : Sections} {kind : SectionKind} :
    kind.name ∈ (finished.write s).map (·.1) ↔ s.get kind ≠ [] := by
  have written : ∀ k : SectionKind,
      kind.name ∈ ((unlessEmpty k.name (buffered Section.form)).write (s.get k)).map (·.1) ↔
        kind = k ∧ s.get k ≠ [] := by
    intro k
    cases hk : s.get k <;> simp [unlessEmpty, SectionKind.name_injective.eq_iff]
  rw [write_finished, List.map_flatMap, List.mem_flatMap]
  simp [written, SectionKind.mem_byName]

namespace ResolvedEndpoint

theorem lawful_form : form.Lawful (depth + 3) :=
  Record.Lawful.tableForm
    (((lawful_required lawful_text).and <| (lawful_required lawful_text).and <|
      (lawful_required lawful_text).and <| (lawful_optional lawful_text fun _ => nofun).and <|
      (lawful_required lawful_text).and Sections.lawful_finished).convert fun _ => rfl)
    (by decide)

/-- The record is a table with a member for each section that has entries, and for no other one. -/
def ShowsSections (record : ResolvedEndpoint) (n : Node) : Prop :=
  ∃ members, n = .table members ∧
    ∀ kind : SectionKind, some kind.name ∈ members.map (·.1) ↔ record.sections.get kind ≠ []

theorem showsSections_write (record : ResolvedEndpoint) :
    record.ShowsSections (form.write record).toNode := by
  have written : form.write record = .obj ([("id", Json.str record.id), ("name", .str record.name),
      ("label", .str record.label), ("asterisk_id", record.asteriskId.elim .null .str),
      ("tenant_id", .str record.tenantId)] ++ Sections.finished.write record.sections) := rfl
  rw [written, Json.toNode, Json.memberNodes_eq_map]
  refine ⟨_, rfl, fun kind => ?_⟩
  have apart : kind.name ∉ ["id", "name", "label", "asterisk_id", "tenant_id"] := by
    cases kind <;> decide
  rw [← Sections.mem_names_finished]
  simp only [List.mem_cons, List.not_mem_nil, or_false, not_or] at apart
  simp [apart]

end ResolvedEndpoint

/-! ### Counts -/

theorem fitsWord_toNat (n : UInt64) : Node.fitsWord n.toNat = true :=
  (lawful_word64 : word64.Lawful 0).readable n

namespace ResolutionStats

def node (s : ResolutionStats) : Node :=
  .table [(some "descriptors_built", .int s.descriptorsBuilt),
    (some "templates_skipped", .int s.templatesSkipped),
    (some "records_emitted", .int s.recordsEmitted)]

theorem toNode_toJson (s : ResolutionStats) : s.toJson.toNode = s.node := by
  simp [toJson, Json.toNode, Json.memberNodes, node]

theorem readable_node (built skipped emitted : UInt64) :
    (node ⟨built.toNat, skipped.toNat, emitted.toNat⟩).readable (some (depth + 1)) = true := by
  simp [node, Node.readable, Node.enter, Node.readableMembers, fitsWord_toNat]

end ResolutionStats

/-! ### Resolutions -/

namespace Resolution

/-- What the texts of a resolution say. The items are the same in all of them. -/
structure Reported (r : Resolution) (items : List Node) : Prop where
  array (pretty : Bool) : Json.value? (r.render ⟨pretty, false⟩) = some (.list items)
  wrapped (pretty : Bool) : Json.value? (r.render ⟨pretty, true⟩)
    = some (.table [(some "records", .list items), (some "stats", r.stats.node)])
  sections : List.Forall₂ ResolvedEndpoint.ShowsSections r.records items
  decoded : (Form.list ResolvedEndpoint.form).read .strict (.list items) = .ok r.records
  decode_array (pretty : Bool) :
    Json.decode (.list ResolvedEndpoint.form) (r.render ⟨pretty, false⟩) = .ok r.records
  decode_wrapped (pretty : Bool) :
    Json.decode (required "records" (.list ResolvedEndpoint.form)).form (r.render ⟨pretty, true⟩)
      = .ok r.records
  one_line (includeStats : Bool) : Json.NoControl (r.render ⟨false, includeStats⟩).toList

variable {r : Resolution}

def items (r : Resolution) : List Node :=
  r.records.map fun record => (ResolvedEndpoint.form.write record).toNode

theorem lawful_records : (Form.list ResolvedEndpoint.form).Lawful 4 :=
  ResolvedEndpoint.lawful_form.list

theorem toNode_recordsJson : r.recordsJson.toNode = .list r.items :=
  toNode_write_list ResolvedEndpoint.form r.records

theorem toNode_toJson_true : (r.toJson true).toNode
    = .table [(some "records", .list r.items), (some "stats", r.stats.node)] := by
  simp [toJson, Json.toNode, Json.memberNodes, toNode_recordsJson, ResolutionStats.toNode_toJson]

theorem read_items {reading : Reading} (h : reading.Admits 4) :
    (Form.list ResolvedEndpoint.form).read reading (.list r.items) = .ok r.records := by
  rw [← toNode_recordsJson]
  exact lawful_records.read_write r.records reading h

/-- A reader of tables with records passes over the counts. -/
theorem read_wrapped {reading : Reading} (h : reading.Admits 5) :
    (required "records" (.list ResolvedEndpoint.form)).form.read reading
      (.table [(some "records", .list r.items), (some "stats", r.stats.node)]) = .ok r.records := by
  have skipped : ∀ m ∈ [(some "stats", r.stats.node)], ∃ name, m.1 = some name ∧
      name ∉ (required "records" (Form.list ResolvedEndpoint.form)).names ∧ m.2.intact = true := by
    intro m hm
    rw [List.mem_singleton.mp hm]
    exact ⟨"stats", rfl, by decide, rfl⟩
  have records : (required "records" (Form.list ResolvedEndpoint.form)).readMembers Node.intact
      reading.inner [(some "records", .list r.items)] = .ok r.records := by
    have lawful : (required "records" (Form.list ResolvedEndpoint.form)).Lawful 4 :=
      lawful_required lawful_records
    rw [← toNode_recordsJson]
    exact lawful.readMembers (by decide) h.inner r.records
  exact (readMembers_append skipped).trans records

theorem readable_wrapped (h : r.stats.node.readable (some 126) = true) :
    (r.toJson true).toNode.readable Json.reading.room = true := by
  have items : (Node.list r.items).readable (some 126) = true := by
    rw [← toNode_recordsJson]
    exact Node.readable_of_le _ 4 _ (by simp) (lawful_records.readable r.records)
  have inner : Node.enter Json.reading.room = some (some 126) := rfl
  rw [toNode_toJson_true, Node.readable, inner]
  simp only [Node.readableMembers, items, h]
  rfl

theorem noControl_render (includeStats : Bool) :
    Json.NoControl (r.render ⟨false, includeStats⟩).toList := by
  rw [render, Json.text, String.toList_ofList]
  exact Json.noControl_print _ 0

/-- The four texts of a resolution are well-formed. They say the same records, whatever the layout,
in a list or beside the three counts in a table. Each record shows its sections with entries and no
others, and all records are decoded from their list in their order. The compact texts have no control
character. -/
theorem render_carries_records (records : List ResolvedEndpoint)
    (built skipped emitted : UInt64) :
    ∃ items, Reported ⟨records, ⟨built.toNat, skipped.toNat, emitted.toNat⟩⟩ items := by
  let r : Resolution := ⟨records, ⟨built.toNat, skipped.toNat, emitted.toNat⟩⟩
  have blank := Json.Layout.blank_of_pretty
  have whole : (r.toJson true).toNode.readable Json.reading.room = true :=
    readable_wrapped (ResolutionStats.readable_node built skipped emitted)
  have anywhere : (r.toJson true).toNode.readable none = true :=
    Node.readable_of_le _ 127 none (by simp) whole
  refine ⟨r.items, ?_, ?_, ?_, ?_, ?_, ?_, noControl_render⟩
  · intro pretty
    rw [← toNode_recordsJson]
    exact Json.value?_text (blank pretty) (lawful_records.readable_document (by decide) records)
  · intro pretty
    rw [← toNode_toJson_true]
    exact Json.value?_text (blank pretty) whole
  · refine List.forall₂_map_right_iff.mpr (List.forall₂_same.mpr fun record _ => ?_)
    exact record.showsSections_write
  · exact read_items Reading.admits_strict
  · intro pretty
    exact lawful_records.decode_text (by decide) (blank pretty) records
  · intro pretty
    refine Json.decode_text (blank pretty) anywhere ?_
    rw [toNode_toJson_true]
    exact read_wrapped (Json.admits_reading (by decide))

end Resolution

end PbxTemplates
