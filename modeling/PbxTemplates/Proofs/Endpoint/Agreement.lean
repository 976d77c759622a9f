import PbxTemplates.Proofs.Endpoint.References
import PbxTemplates.Proofs.Section.Agreement

/-!
# Finished sections that agree outside some keys

What is added to a body when sections are finished depends on few things: on which sections have an
entry, and on the value of the caller id. So if more keys may repeat, and the caller id is not one
of them, then the finished sections still agree outside these keys (`AgreesOutside.sections`).
-/

namespace PbxTemplates.Finish

variable {keys : List String} {f f' : Finish} {s t : Sections} {kind : SectionKind}

/-- The same endpoint with the same injected entries, finished by a rule that lets more keys repeat
from a body that agrees outside these keys. -/
structure AgreesOutside (keys : List String) (f f' : Finish) : Prop where
  canonicalizer : f'.canonicalizer = f.canonicalizer.allowing keys
  endpoint : f'.endpoint = f.endpoint
  injection : f'.injection = f.injection
  body : f.body.AgreesOutside keys f'.body

theorem references_eq (name : f.name = f'.name) (h : s.AgreesOutside keys t) :
    f.references s = f'.references t := by
  have aor : s.aor.isEmpty = t.aor.isEmpty := (h .aor).isEmpty_eq
  have auth : s.auth.isEmpty = t.auth.isEmpty := (h .auth).isEmpty_eq
  rw [references, references, name, aor, auth]

namespace AgreesOutside

variable (h : f.AgreesOutside keys f')
include h

theorem name_eq : f.name = f'.name := by
  rw [name, name, h.endpoint]

theorem endpointSources : f.endpointSources.AgreesOutside keys f'.endpointSources := by
  rw [Finish.endpointSources, Finish.endpointSources, h.endpoint, h.injection]
  exact ((Section.AgreesOutside.refl keys _).append (h.body .endpoint)).append (.refl keys _)

theorem derivedCallerId_eq (callerId : "callerid" ∉ keys) :
    derivedCallerId f.endpointSources = derivedCallerId f'.endpointSources := by
  rw [derivedCallerId, derivedCallerId, h.endpointSources.value?_eq callerId]

/-- Of the values 1, 2 and 1 the last one is 1, but the different ones are 1 and 2. -/
example :
    let stream : Section := [⟨"callerid", "1"⟩, ⟨"callerid", "2"⟩, ⟨"callerid", "1"⟩]
    derivedCallerId (Canonicalizer.standard.canonicalize stream)
      ≠ derivedCallerId ((Canonicalizer.standard.allowing ["callerid"]).canonicalize stream) := by
  decide

theorem content (callerId : "callerid" ∉ keys) (built : s.AgreesOutside keys t) :
    (f.content s kind).AgreesOutside keys (f'.content t kind) := by
  have body : (f.body.get kind).AgreesOutside keys (f'.body.get kind) := h.body kind
  cases kind with
  | aor =>
    rw [Finish.content, Finish.content, h.canonicalizer, h.injection]
    exact (body.append (.refl keys _)).canonicalize _
  | endpoint =>
    rw [Finish.content, Finish.content, h.canonicalizer, h.derivedCallerId_eq callerId,
      references_eq h.name_eq built]
    exact ((h.endpointSources.append (.refl keys _)).append (.refl keys _)).canonicalize _
  | _ => exact body

theorem closing_eq (built : s.AgreesOutside keys t) : f.closing s kind = f'.closing t kind := by
  have registration : s.registrationOutboundAuth = [] ↔ t.registrationOutboundAuth = [] :=
    (built .registrationOutboundAuth).empty_iff
  have outbound : s.outboundAuth = [] ↔ t.outboundAuth = [] := (built .outboundAuth).empty_iff
  cases kind <;> simp only [closing, h.name_eq, registration, outbound]

theorem sectionOf (callerId : "callerid" ∉ keys) (built : s.AgreesOutside keys t)
    (kind : SectionKind) : (f.sectionOf s kind).AgreesOutside keys (f'.sectionOf t kind) := by
  have content : (f.content s kind).AgreesOutside keys (f'.content t kind) :=
    h.content callerId built
  by_cases none : f.content s kind = []
  · rw [sectionOf_of_nil none, sectionOf_of_nil (content.empty_iff.mp none)]
    exact .refl keys []
  · rw [sectionOf_of_ne_nil none, sectionOf_of_ne_nil (content.empty_iff.not.mp none),
      h.closing_eq built]
    exact content.append (.refl keys _)

theorem foldl_set (callerId : "callerid" ∉ keys) (built : s.AgreesOutside keys t)
    (kinds : List SectionKind) :
    (kinds.foldl (fun built kind => built.set kind (f.sectionOf built kind)) s).AgreesOutside keys
      (kinds.foldl (fun built kind => built.set kind (f'.sectionOf built kind)) t) := by
  induction kinds generalizing s t with
  | nil => exact built
  | cons kind kinds ih => exact ih (built.set (h.sectionOf callerId built kind))

theorem sections (callerId : "callerid" ∉ keys) :
    f.sections.AgreesOutside keys f'.sections :=
  h.foldl_set callerId (.refl keys {}) SectionKind.buildOrder

end AgreesOutside

end PbxTemplates.Finish
