import PbxTemplates.Document.Record
import PbxTemplates.Tenant

/-!
# Tenant settings in documents
-/

namespace PbxTemplates

def TenantSettings.form : Form TenantSettings :=
  Record.form <|
    ((Record.optional "start_announcement" .text).and
      (.optional "stop_announcement" .text)).convert
      (fun s => ⟨s.1, s.2⟩) fun s => (s.startAnnouncement, s.stopAnnouncement)

/-- A tenant directory is a table of settings. Its tenants come in no particular order. -/
def TenantDirectory.formIn (order : MemberOrder TenantSettings) : Form TenantDirectory :=
  .dictionary order TenantSettings.form

def TenantDirectory.form : Form TenantDirectory := formIn .byName

end PbxTemplates
