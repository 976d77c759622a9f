import PbxTemplates.Dump
import PbxTemplates.Endpoint.Form
import PbxTemplates.FunctionKey.Form
import PbxTemplates.Owner.Form
import PbxTemplates.Tenant.Form

/-!
# Dumps in documents
-/

namespace PbxTemplates

def Item.form : Form Item :=
  Record.form <|
    ((Record.required "endpoint" .text).and (.required "owner" Owner.form)).convert
      (fun i => ⟨i.1, i.2⟩) fun i => (i.endpoint, i.owner)

def KeyUser.form : Form KeyUser :=
  Record.form <|
    ((Record.required "user_id" .word64).and <| (Record.optional "public_template" .word64).and
      (.optional "private_template" .word64)).convert
      (fun (userId, publicTemplate, privateTemplate) => ⟨userId, publicTemplate, privateTemplate⟩)
      fun u => (u.userId, u.publicTemplate, u.privateTemplate)

/-- A dump with its tenants in the given order. Every part of it may be left out. -/
def Dump.formIn (order : MemberOrder TenantSettings) : Form Dump :=
  Record.form <|
    ((Record.defaulted "endpoints" (.list Endpoint.form) []).and <|
      (Record.defaulted "items" (.list Item.form) []).and <|
      (Record.defaulted "tenants" (TenantDirectory.formIn order) ∅).and <|
      (Record.defaulted "func_key_templates" (.list KeyTemplate.form) []).and
        (.defaulted "func_key_users" (.list KeyUser.form) [])).convert
      (fun (endpoints, items, tenants, keyTemplates, keyUsers) =>
        ⟨endpoints, items, tenants, keyTemplates, keyUsers⟩)
      fun d => (d.endpoints, d.items, d.tenants, d.keyTemplates, d.keyUsers)

def Dump.form : Form Dump := formIn .byName

end PbxTemplates
