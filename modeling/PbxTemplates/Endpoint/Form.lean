import PbxTemplates.Endpoint.Record
import PbxTemplates.Section.Form

/-!
# Endpoints in documents

The sections of an endpoint stand among its other members. Therefore an endpoint is always a table,
and what is no field of it has to be readable.
-/

namespace PbxTemplates

def Endpoint.form : Form Endpoint :=
  Record.tableForm <|
    ((Record.required "id" .text).and <| (Record.required "name" .text).and <|
      (Record.defaulted "label" .text "").and <| (Record.optional "asterisk_id" .text).and <|
      (Record.required "tenant_id" .text).and <| (Record.defaulted "template" .bool false).and <|
      (Record.defaulted "parents" (.list .text) []).and <|
      (Record.optional "transport" .text).and Sections.declared).convert
      (fun (id, name, label, asteriskId, tenantId, isTemplate, parents, transport, sections) =>
        ⟨id, name, label, asteriskId, tenantId, isTemplate, parents, transport, sections⟩)
      fun e => (e.id, e.name, e.label, e.asteriskId, e.tenantId, e.isTemplate, e.parents,
        e.transport, e.sections)

/-- A finished endpoint, with the sections that have entries. -/
def ResolvedEndpoint.form : Form ResolvedEndpoint :=
  Record.tableForm <|
    ((Record.required "id" .text).and <| (Record.required "name" .text).and <|
      (Record.required "label" .text).and <| (Record.optional "asterisk_id" .text).and <|
      (Record.required "tenant_id" .text).and Sections.finished).convert
      (fun (id, name, label, asteriskId, tenantId, sections) =>
        ⟨id, name, label, asteriskId, tenantId, sections⟩)
      fun e => (e.id, e.name, e.label, e.asteriskId, e.tenantId, e.sections)

end PbxTemplates
