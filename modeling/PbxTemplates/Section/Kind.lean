/-!
# Section kinds

An endpoint of the telephony server is configured in up to seven sections. This file names them and
fixes the order in which they are built: a section comes after all sections that it refers to.
-/

namespace PbxTemplates

inductive SectionKind where
  /-- The address of record: how the endpoint is reached. -/
  | aor
  /-- Credentials that the endpoint presents. -/
  | auth
  | endpoint
  /-- Addresses by which incoming traffic is recognised. -/
  | identify
  /-- Credentials used on calls to the endpoint. -/
  | outboundAuth
  /-- Registration with a remote server. -/
  | registration
  /-- Credentials used for that registration. -/
  | registrationOutboundAuth
deriving DecidableEq

namespace SectionKind

def name : SectionKind → String
  | aor => "aor"
  | auth => "auth"
  | endpoint => "endpoint"
  | identify => "identify"
  | outboundAuth => "outbound_auth"
  | registration => "registration"
  | registrationOutboundAuth => "registration_outbound_auth"

/-- The value of the `type` entry that closes a section. Credentials of all kinds share one. -/
def typeMarker : SectionKind → String
  | aor => "aor"
  | auth | outboundAuth | registrationOutboundAuth => "auth"
  | endpoint => "endpoint"
  | identify => "identify"
  | registration => "registration"

/-- All kinds by name, the order in which documents list them. -/
def byName : List SectionKind :=
  [aor, auth, endpoint, identify, outboundAuth, registration, registrationOutboundAuth]

/-- All kinds in the order in which sections are built. A registration refers to its credentials,
and the endpoint to its addresses and credentials, so these come first. -/
def buildOrder : List SectionKind :=
  [aor, auth, outboundAuth, registrationOutboundAuth, identify, registration, endpoint]

def ofName? (s : String) : Option SectionKind := byName.find? fun k => k.name == s

def nameIndex (k : SectionKind) : Nat := byName.idxOf k

def buildIndex (k : SectionKind) : Nat := buildOrder.idxOf k

theorem mem_byName (k : SectionKind) : k ∈ byName := by cases k <;> decide

theorem mem_buildOrder (k : SectionKind) : k ∈ buildOrder := by cases k <;> decide

theorem ofName?_name (k : SectionKind) : ofName? k.name = some k := by cases k <;> decide

end SectionKind

end PbxTemplates
