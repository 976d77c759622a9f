import PbxTemplates.Section.Basic
import PbxTemplates.SortedMap

/-!
# Tenants

Each endpoint belongs to a tenant. A tenant's recording announcements become an option string of
the call recorder, and its identifier becomes a channel variable of all its endpoints.
-/

namespace PbxTemplates

def Entry.setVar (name value : String) : Entry := ⟨"set_var", name ++ "=" ++ value⟩

/-- The sound files that announce a call recording. -/
@[ext] structure TenantSettings where
  /-- Played when a recording starts. -/
  startAnnouncement : Option String := none
  /-- Played when a recording stops. -/
  stopAnnouncement : Option String := none
deriving DecidableEq, Inhabited

namespace TenantSettings

/-- The recorder's option string: `p(start)` and `P(stop)`, each only if there is such a file. -/
def mixMonitorOptions (t : TenantSettings) : String :=
  (t.startAnnouncement.elim "" fun start => "p(" ++ start ++ ")")
    ++ (t.stopAnnouncement.elim "" fun stop => "P(" ++ stop ++ ")")

/-- The entry that gives the recorder's options to a channel. -/
def recordingEntry (t : TenantSettings) : Entry :=
  .setVar "WAZO_MIXMONITOR_OPTIONS" t.mixMonitorOptions

end TenantSettings

/-- The entry that marks an endpoint with its tenant. -/
def tenantMarker (tenantId : String) : Entry := .setVar "__WAZO_TENANT_UUID" tenantId

/-- The settings of the tenants that have any. -/
abbrev TenantDirectory := SortedMap String TenantSettings

/-- The settings of a tenant; one without an entry has no announcements. -/
def TenantDirectory.settings (d : TenantDirectory) (tenantId : String) : TenantSettings :=
  (d.get? tenantId).getD {}

end PbxTemplates
