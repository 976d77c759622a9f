import PbxTemplates.Endpoint.Finish
import PbxTemplates.Proofs.Section.Canonical

/-!
# References between finished sections

The sections of an endpoint are finished one after the other, and two of them look at those finished
before. As no section looks at one that comes later, each of them is what it would be if it had been
made from all the finished sections (`sectionOf_sections`). A reference is therefore there exactly
when the section to which it leads is there at the end (`sections_consistent`).
-/

namespace PbxTemplates

/-- The kinds whose finished sections decide what a finished section of this kind holds. -/
def SectionKind.uses : SectionKind → List SectionKind
  | .registration => [.registrationOutboundAuth]
  | .endpoint => [.aor, .auth, .outboundAuth]
  | _ => []

theorem SectionKind.not_mem_uses_self (kind : SectionKind) : kind ∉ kind.uses := by
  cases kind <;> decide

namespace Finish

variable {f : Finish} {s t : Sections} {kind : SectionKind} {done kinds : List SectionKind}

/-! ### The order of finishing -/

theorem sectionOf_congr (h : ∀ j ∈ kind.uses, s.get j = t.get j) :
    f.sectionOf s kind = f.sectionOf t kind := by
  cases kind with
  | registration =>
    have credentials : s.registrationOutboundAuth = t.registrationOutboundAuth :=
      h .registrationOutboundAuth (by decide)
    simp only [sectionOf, credentials]
  | endpoint =>
    have aor : s.aor = t.aor := h .aor (by decide)
    have auth : s.auth = t.auth := h .auth (by decide)
    have outbound : s.outboundAuth = t.outboundAuth := h .outboundAuth (by decide)
    have references : f.references s = f.references t := by
      rw [references, references, aor, auth]
    show f.endpointSection s = f.endpointSection t
    rw [endpointSection, endpointSection, references, outbound]
  | _ => rfl

/-- The sections of these kinds are what the sections as a whole make them. -/
def Settled (f : Finish) (kinds : List SectionKind) (s : Sections) : Prop :=
  ∀ kind ∈ kinds, s.get kind = f.sectionOf s kind

theorem Settled.set (h : f.Settled done s) (apart : ∀ j ∈ done, kind ≠ j ∧ kind ∉ j.uses) :
    f.Settled (done ++ [kind]) (s.set kind (f.sectionOf s kind)) := by
  have kept : ∀ j, kind ∉ j.uses →
      f.sectionOf s j = f.sectionOf (s.set kind (f.sectionOf s kind)) j := by
    intro j unused
    refine sectionOf_congr fun k hk => (Sections.get_set_of_ne s ?_ _).symm
    rintro rfl
    exact unused hk
  intro j hj
  rcases List.mem_append.mp hj with hj | hj
  · obtain ⟨other, unused⟩ := apart j hj
    rw [Sections.get_set_of_ne s other.symm, h j hj, kept j unused]
  · obtain rfl := List.mem_singleton.mp hj
    rw [Sections.get_set_self]
    exact kept j j.not_mem_uses_self

/-- Finishing sections one after the other settles them all if no section looks at a later one. -/
theorem Settled.foldl (h : f.Settled done s)
    (apart : (done ++ kinds).Pairwise fun j k => k ≠ j ∧ k ∉ j.uses) :
    f.Settled (done ++ kinds)
      (kinds.foldl (fun built kind => built.set kind (f.sectionOf built kind)) s) := by
  induction kinds generalizing done s with
  | nil => simpa using h
  | cons kind kinds ih =>
    have next : ∀ j ∈ done, kind ≠ j ∧ kind ∉ j.uses := by
      intro j hj
      exact (List.pairwise_append.mp apart).2.2 j hj kind List.mem_cons_self
    rw [List.append_cons] at apart ⊢
    exact ih (h.set next) apart

theorem sectionOf_sections (f : Finish) (kind : SectionKind) :
    f.sections.get kind = f.sectionOf f.sections kind := by
  have start : f.Settled [] {} := fun _ hkind => absurd hkind List.not_mem_nil
  have settled : f.Settled SectionKind.buildOrder f.sections := start.foldl (by decide)
  exact settled kind kind.mem_buildOrder

/-! ### What a finished section is made of -/

/-- What stands in a finished section before its closing markers. -/
def content (f : Finish) (final : Sections) : SectionKind → Section
  | .aor => f.canonicalizer.canonicalize (f.body.aor ++ f.injection.aor)
  | .endpoint => f.canonicalizer.canonicalize
      (f.endpointSources ++ derivedCallerId f.endpointSources ++ f.references final)
  | kind => f.body.get kind

/-- The closing markers of a finished section that come after its type. -/
def closing (f : Finish) (final : Sections) : SectionKind → Section
  | .identify => [⟨"endpoint", f.name⟩]
  | .registration => ⟨"endpoint", f.name⟩ ::
      if final.registrationOutboundAuth = [] then []
      else [⟨"outbound_auth", "auth_reg_" ++ f.name⟩]
  | .endpoint =>
      if final.outboundAuth = [] then [] else [⟨"outbound_auth", "outbound_auth_" ++ f.name⟩]
  | _ => []

/-- What the finished sections of an endpoint have to satisfy among themselves. -/
structure Consistent (f : Finish) (final : Sections) : Prop where
  empty_iff : ∀ kind, kind ≠ .aor → kind ≠ .endpoint →
    (final.get kind = [] ↔ f.body.get kind = [])
  aor_empty_iff : final.aor = [] ↔ f.body.aor = [] ∧ f.injection.aor = []
  endpoint_ne_nil : final.endpoint ≠ []
  closed : ∀ kind, final.get kind ≠ [] →
    final.get kind = f.content final kind ++ ⟨"type", kind.typeMarker⟩ :: f.closing final kind
  names_aor : final.aor ≠ [] → ⟨"aors", f.name⟩ ∈ final.endpoint
  names_auth : final.auth ≠ [] → ⟨"auth", f.name⟩ ∈ final.endpoint

theorem endpointSection_eq : f.endpointSection s =
    let closed := Section.close (f.content s .endpoint) .endpoint
    if closed.isEmpty || s.outboundAuth.isEmpty then closed
    else closed ++ [⟨"outbound_auth", "outbound_auth_" ++ f.name⟩] := rfl

theorem sectionOf_of_nil (h : f.content s kind = []) : f.sectionOf s kind = [] := by
  have closed : Section.close (f.content s kind) kind = [] := by
    rw [h]
    rfl
  cases kind with
  | identify =>
    have plain : f.plain .identify = [] := closed
    simp [sectionOf, identify, plain]
  | registration =>
    have plain : f.plain .registration = [] := closed
    simp [sectionOf, registration, plain]
  | endpoint => simp [sectionOf, endpointSection_eq, closed]
  | _ => exact closed

theorem sectionOf_of_ne_nil (h : f.content s kind ≠ []) : f.sectionOf s kind
    = f.content s kind ++ ⟨"type", kind.typeMarker⟩ :: f.closing s kind := by
  have closed : Section.close (f.content s kind) kind
      = f.content s kind ++ [⟨"type", kind.typeMarker⟩] := by
    simp [Section.close, h]
  cases kind with
  | identify =>
    have plain : f.plain .identify = f.content s .identify ++ [⟨"type", "identify"⟩] := closed
    simp [sectionOf, identify, plain, closing, SectionKind.typeMarker]
  | registration =>
    have plain : f.plain .registration = f.content s .registration ++ [⟨"type", "registration"⟩] :=
      closed
    simp [sectionOf, registration, plain, closing, SectionKind.typeMarker]
  | endpoint =>
    by_cases outbound : s.outboundAuth = [] <;>
      simp [sectionOf, endpointSection_eq, closed, closing, outbound]
  | _ => exact closed

theorem sectionOf_eq_nil_iff : f.sectionOf s kind = [] ↔ f.content s kind = [] := by
  refine ⟨fun none => ?_, sectionOf_of_nil⟩
  by_contra h
  rw [sectionOf_of_ne_nil h] at none
  simp at none

/-! ### References -/

theorem value?_references {key : String} : (f.references s).value? key
    = if key = "aors" ∧ s.aor ≠ [] ∨ key = "auth" ∧ s.auth ≠ [] then some f.name else none := by
  by_cases named : key = "auth" <;> by_cases aor : s.aor = [] <;>
    by_cases auth : s.auth = [] <;> simp [references, Section.value?_cons, named, aor, auth]

theorem value?_references_aor (h : s.aor ≠ []) : (f.references s).value? "aors" = some f.name := by
  rw [value?_references, if_pos (.inl ⟨rfl, h⟩)]

theorem value?_references_auth (h : s.auth ≠ []) :
    (f.references s).value? "auth" = some f.name := by
  rw [value?_references, if_pos (.inr ⟨rfl, h⟩)]

/-- What the references name last is kept, as nothing comes after them. -/
theorem mem_content_endpoint {key value : String} (h : (f.references s).value? key = some value) :
    ⟨key, value⟩ ∈ f.content s .endpoint := by
  refine Canonicalizer.mem_canonicalize_of_value? ?_
  rw [Section.value?_append, h, Option.some_or]

/-- Whatever rule, body and owner the finished sections come from, they have their closing markers
and refer to each other as they should. -/
theorem sections_consistent (f : Finish) : f.Consistent f.sections := by
  have empty : ∀ kind, f.sections.get kind = [] ↔ f.content f.sections kind = [] := by
    intro kind
    rw [sectionOf_sections]
    exact sectionOf_eq_nil_iff
  have closed : ∀ kind, f.sections.get kind ≠ [] → f.sections.get kind
      = f.content f.sections kind ++ ⟨"type", kind.typeMarker⟩ :: f.closing f.sections kind := by
    intro kind h
    rw [sectionOf_sections]
    exact sectionOf_of_ne_nil ((empty kind).not.mp h)
  -- the tenant's variable is always there
  have endpoint_ne_nil : f.sections.endpoint ≠ [] := by
    refine (empty .endpoint).not.mpr ?_
    simp [content, Canonicalizer.canonicalize_eq_nil_iff, endpointSources]
  have endpoint : ∀ e ∈ f.content f.sections .endpoint, e ∈ f.sections.endpoint := by
    intro e he
    have whole : f.sections.endpoint = f.content f.sections .endpoint
        ++ ⟨"type", "endpoint"⟩ :: f.closing f.sections .endpoint :=
      closed .endpoint endpoint_ne_nil
    rw [whole]
    exact List.mem_append_left _ he
  refine ⟨?_, ?_, endpoint_ne_nil, closed, ?_, ?_⟩
  · intro kind aor endpoint
    rw [empty]
    cases kind <;> first | rfl | contradiction
  · refine (empty .aor).trans ?_
    simp [content, Canonicalizer.canonicalize_eq_nil_iff]
  · intro h
    exact endpoint _ (mem_content_endpoint (value?_references_aor h))
  · intro h
    exact endpoint _ (mem_content_endpoint (value?_references_auth h))

end Finish

end PbxTemplates
