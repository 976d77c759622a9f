import PbxTemplates.Document.Record
import PbxTemplates.Section.Basic

/-!
# Sections in documents

An entry is written as the list of its key and its value, and a set of sections as a table with one
member per kind.
-/

namespace PbxTemplates

def SectionKind.form : Form SectionKind := .choice byName name false

/-- An entry is written as `[key, value]`. -/
def Entry.form : Form Entry :=
  Record.listForm <|
    ((Record.required "key" .text).and (.required "value" .text)).convert
      (fun e => ⟨e.1, e.2⟩) fun e => (e.key, e.value)

def Section.form : Form Section := .list Entry.form

namespace Sections

/-- The record of all sections, in the order of their names, from the record of one section. -/
def recordOf (field : String → Record Section) : Record Sections :=
  let member (kind : SectionKind) := field kind.name
  ((member .aor).and <| (member .auth).and <| (member .endpoint).and <| (member .identify).and <|
    (member .outboundAuth).and <| (member .registration).and
      (member .registrationOutboundAuth)).convert
    (fun (aor, auth, endpoint, identify, outboundAuth, registration, registrationOutboundAuth) =>
      ⟨aor, auth, endpoint, identify, outboundAuth, registration, registrationOutboundAuth⟩)
    (fun s => (s.aor, s.auth, s.endpoint, s.identify, s.outboundAuth, s.registration,
      s.registrationOutboundAuth))

/-- A set of sections; those without entries are not written. -/
def form : Form Sections := (recordOf fun name => .unlessEmpty name Section.form).form

/-- The sections among the members of a declared endpoint. All are written. -/
def declared : Record Sections :=
  recordOf fun name => .defaulted name (.buffered Section.form) []

/-- The sections among the members of a finished endpoint. Those without entries are not written. -/
def finished : Record Sections :=
  recordOf fun name => .unlessEmpty name (.buffered Section.form)

end Sections

end PbxTemplates
