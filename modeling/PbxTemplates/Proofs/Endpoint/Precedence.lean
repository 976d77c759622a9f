import PbxTemplates.Proofs.Endpoint.SingleKeys

/-!
# Which source decides about a single key

The endpoint section and the aor section are made from several sources, and of a key that may stand
only once the last value counts. So the source that comes last and has the key decides. In the
endpoint section these are, from the last one, the references, the transport, the body and the
owner. In the aor section the owner comes before the body (`last_source_decides`).
-/

namespace PbxTemplates.Finish

variable {f : Finish} {final : Sections} {kind : SectionKind} {key : String}

/-- Closing a section leaves alone what it says of all keys but those of its markers. -/
theorem values_sections (h : key ∉ f.sections.markerKeys kind) :
    (f.sections.get kind).values key = (f.content f.sections kind).values key := by
  rw [sectionOf_sections]
  by_cases none : f.content f.sections kind = []
  · rw [sectionOf_of_nil none, none]
  · have closing :
        Section.values (⟨"type", kind.typeMarker⟩ :: f.closing f.sections kind) key = [] := by
      rw [Section.values_eq_nil_iff, keys_closing]
      exact h
    rw [sectionOf_of_ne_nil none, Section.values_append, closing, List.append_nil]

theorem values_sections_endpoint (type : key ≠ "type") (outbound : key ≠ "outbound_auth") :
    f.sections.endpoint.values key
      = (f.canonicalizer.canonicalize (f.stream f.sections .endpoint)).values key := by
  have unmarked : key ∉ f.sections.markerKeys .endpoint := by
    by_cases h : f.sections.outboundAuth = [] <;> simp [Sections.markerKeys, h, type, outbound]
  exact values_sections unmarked

theorem values_sections_aor (type : key ≠ "type") : f.sections.aor.values key
    = (f.canonicalizer.canonicalize (f.stream f.sections .aor)).values key := by
  have unmarked : key ∉ f.sections.markerKeys .aor := by simpa [Sections.markerKeys] using type
  exact values_sections unmarked

/-! ### The sources of the endpoint section -/

theorem value?_derivedCallerId {s : Section} (h : key ≠ "set_var") :
    (derivedCallerId s).value? key = none :=
  Section.value?_eq_none_iff.mpr fun hk => h (key_of_mem_derivedCallerId hk)

theorem value?_endpointSources (h : key ≠ "set_var") : f.endpointSources.value? key
    = (if key = "transport" then f.endpoint.transport else none).or
      ((f.body.endpoint.value? key).or (f.injection.endpoint.value? key)) := by
  have transport : Section.value? (f.endpoint.transport.elim [] fun t => [⟨"transport", t⟩]) key
      = if key = "transport" then f.endpoint.transport else none := by
    cases f.endpoint.transport <;> simp [Section.value?_cons]
  rw [endpointSources, Section.value?_append, transport, List.cons_append, Section.value?_cons,
    Section.value?_append, tenantMarker, Entry.key_setVar, if_neg h, Option.or_none]

/-- What the sources of the endpoint section say of a key, the last source first. -/
theorem value?_stream_endpoint (h : key ≠ "set_var") : (f.stream final .endpoint).value? key
    = (if key = "aors" ∧ final.aor ≠ [] ∨ key = "auth" ∧ final.auth ≠ [] then some f.name
        else none).or
      ((if key = "transport" then f.endpoint.transport else none).or
        ((f.body.endpoint.value? key).or (f.injection.endpoint.value? key))) := by
  rw [stream, Section.value?_append, Section.value?_append, value?_references,
    value?_derivedCallerId h, value?_endpointSources h, Option.none_or]

/-- Of each key that may stand only once and is not that of a closing marker, the endpoint section
has the value of the last source that has one, and nothing else: the references, the transport, the
body, the owner. In the aor section the owner comes last. -/
theorem last_source_decides (keys : List String) (e : Endpoint) (body : Sections)
    (injected : Injection) (key : String)
    (single : (Canonicalizer.standard.allowing keys).isRepeatable key = false)
    (type : key ≠ "type") :
    let final := Finish.sections ⟨Canonicalizer.standard.allowing keys, e, body, injected⟩
    (key ≠ "outbound_auth" → final.endpoint.values key =
      ((if key = "aors" ∧ final.aor ≠ [] ∨ key = "auth" ∧ final.auth ≠ [] then some e.name
          else none).or
        ((if key = "transport" then e.transport else none).or
          ((body.endpoint.value? key).or (injected.endpoint.value? key)))).toList) ∧
    final.aor.values key = ((injected.aor.value? key).or (body.aor.value? key)).toList := by
  let f : Finish := ⟨Canonicalizer.standard.allowing keys, e, body, injected⟩
  have other : key ≠ "set_var" := by
    rintro rfl
    rw [Canonicalizer.isRepeatable_setVar] at single
    cases single
  constructor
  · intro outbound
    have last : (f.stream f.sections .endpoint).value? key = _ := value?_stream_endpoint other
    rw [values_sections_endpoint type outbound, Canonicalizer.values_canonicalize, single]
    exact congrArg Option.toList last
  · have last : (f.stream f.sections .aor).value? key
        = (injected.aor.value? key).or (body.aor.value? key) := Section.value?_append
    rw [values_sections_aor type, Canonicalizer.values_canonicalize, single]
    exact congrArg Option.toList last

/-- Both the templates and the owner name mailboxes, in both sections. -/
def sharedMailboxes : Finish where
  canonicalizer := Canonicalizer.standard.allowing []
  endpoint := { id := "desk", name := "desk", tenantId := "t" }
  body := { endpoint := [⟨"mailboxes", "common"⟩], aor := [⟨"mailboxes", "common"⟩] }
  injection := { endpoint := [⟨"mailboxes", "own"⟩], aor := [⟨"mailboxes", "own"⟩] }

theorem values_sharedMailboxes :
    Canonicalizer.isRepeatable sharedMailboxes.canonicalizer "mailboxes" = false ∧
      sharedMailboxes.sections.endpoint.values "mailboxes" = ["common"] ∧
      sharedMailboxes.sections.aor.values "mailboxes" = ["own"] := by
  have single : (Canonicalizer.standard.allowing []).isRepeatable "mailboxes" = false := by decide
  obtain ⟨endpoint, aor⟩ := last_source_decides [] sharedMailboxes.endpoint sharedMailboxes.body
    sharedMailboxes.injection "mailboxes" single (by decide)
  exact ⟨single, (endpoint (by decide)).trans (by decide), aor.trans (by decide)⟩

end PbxTemplates.Finish
