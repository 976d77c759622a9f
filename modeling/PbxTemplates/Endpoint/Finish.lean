import PbxTemplates.Endpoint.Basic
import PbxTemplates.Owner.Injection
import PbxTemplates.Section.Canonical

/-!
# Bodies and finished sections

The *body* of an endpoint is what its descendants inherit: the bodies of its parents followed by its
own entries, made canonical section by section. The *finished* sections are what is handed to the
telephony server: the body together with the entries of the owner, derived entries, references
between sections and closing markers. None of these additions is inherited.

A section without entries is not closed, and no other section refers to it.
-/

namespace PbxTemplates

/-- The body of an endpoint, from the bodies of its parents in the order in which it lists them. -/
def Endpoint.body (c : Canonicalizer) (e : Endpoint) (parents : List Sections) : Sections :=
  .ofFn fun kind => c.canonicalize (parents.flatMap (·.get kind) ++ e.sections.get kind)

/-- The section with its `type` marker; a section without entries stays as it is. -/
def Section.close (s : Section) (kind : SectionKind) : Section :=
  if s.isEmpty then s else s ++ [⟨"type", kind.typeMarker⟩]

/-- What the finished sections of an endpoint are made from. -/
structure Finish where
  canonicalizer : Canonicalizer
  endpoint : Endpoint
  body : Sections
  injection : Injection

namespace Finish

def name (f : Finish) : String := f.endpoint.name

/-- A section that is the body's section, closed. -/
def plain (f : Finish) (kind : SectionKind) : Section := (f.body.get kind).close kind

/-- The aor section: what the owner injects comes last. -/
def aor (f : Finish) : Section :=
  Section.close (f.canonicalizer.canonicalize (f.body.aor ++ f.injection.aor)) .aor

/-- The identify section, which names the endpoint. -/
def identify (f : Finish) : Section :=
  let s := f.plain .identify
  if s.isEmpty then s else s ++ [⟨"endpoint", f.name⟩]

/-- The registration section, which names the endpoint and its credentials if there are any. -/
def registration (f : Finish) (credentials : Section) : Section :=
  let s := f.plain .registration
  if s.isEmpty then s
  else s ++ ⟨"endpoint", f.name⟩
    :: if credentials.isEmpty then [] else [⟨"outbound_auth", "auth_reg_" ++ f.name⟩]

/-- The entries from which the endpoint section starts: the tenant, the owner, the body and the
transport, each of which may overrule the ones before it. -/
def endpointSources (f : Finish) : Section :=
  tenantMarker f.endpoint.tenantId :: f.injection.endpoint ++ f.body.endpoint
    ++ f.endpoint.transport.elim [] fun t => [⟨"transport", t⟩]

/-- The variable that keeps the caller id of a stream of entries, if it sets one. -/
def derivedCallerId (stream : Section) : Section :=
  (stream.value? "callerid").elim [] fun c => [.setVar "XIVO_ORIGINAL_CALLER_ID" c]

/-- The entries of the endpoint section that name sections already finished. -/
def references (f : Finish) (built : Sections) : Section :=
  (if built.aor.isEmpty then [] else [⟨"aors", f.name⟩])
    ++ if built.auth.isEmpty then [] else [⟨"auth", f.name⟩]

/-- The endpoint section. The sections that it refers to must be among those already finished. -/
def endpointSection (f : Finish) (built : Sections) : Section :=
  let sources := f.endpointSources
  let s := Section.close
    (f.canonicalizer.canonicalize (sources ++ derivedCallerId sources ++ f.references built))
    .endpoint
  if s.isEmpty || built.outboundAuth.isEmpty then s
  else s ++ [⟨"outbound_auth", "outbound_auth_" ++ f.name⟩]

/-- The finished section of a kind, where the sections that it refers to are among those already
finished. -/
def sectionOf (f : Finish) (built : Sections) : SectionKind → Section
  | .aor => f.aor
  | .identify => f.identify
  | .registration => f.registration built.registrationOutboundAuth
  | .endpoint => f.endpointSection built
  | kind => f.plain kind

/-- All finished sections, each built from those before it. -/
def sections (f : Finish) : Sections :=
  SectionKind.buildOrder.foldl (fun built kind => built.set kind (f.sectionOf built kind)) {}

end Finish

end PbxTemplates
