import PbxTemplates.Proofs.Endpoint.References
import PbxTemplates.Proofs.Resolution.Declarations

/-!
# How often a single key stands in a finished section

Canonical sections hold a key that may not repeat at most once. The markers that close a section are
added after that, whatever the section holds. So a key stands twice exactly when it is that of a
closing marker and the endpoint or one of its ancestors declares an entry of this key itself
(`count_keys_record`). No other source of entries knows the keys of the markers.
-/

namespace PbxTemplates

/-! ### Injected keys -/

@[simp] theorem Entry.key_setVar (name value : String) :
    (Entry.setVar name value).key = "set_var" := rfl

namespace Line

/-- The entries of a line apart from those of its pickup groups. -/
def callEntries (l : Line) : Section :=
  [.setVar "WAZO_CHANNEL_DIRECTION" "from-wazo",
   .setVar "WAZO_LINE_ID" (Decimal.text l.id.toNat)]
  ++ l.users.flatMap (·.entries)
  ++ l.outgoingContext.elim [] contextEntries
  ++ l.extensions.head?.elim [] (fun e => [pickupEntry e])

theorem injection_endpoint (l : Line) : l.injection.endpoint
    = l.callEntries ++ l.groupEntries "named_pickup_group" .pickup
      ++ l.groupEntries "named_call_group" .call := rfl

theorem key_of_mem_callEntries {l : Line} {e : Entry} (he : e ∈ l.callEntries) :
    e.key = "set_var" ∨ e.key = "context" := by
  simp only [callEntries, List.mem_append] at he
  rcases he with ((he | he) | he) | he
  · rcases List.mem_pair.mp he with rfl | rfl <;> simp
  · obtain ⟨u, _, he⟩ := List.mem_flatMap.mp he
    simp only [LineUser.entries, List.mem_cons, List.not_mem_nil, or_false] at he
    rcases he with rfl | rfl | rfl <;> simp
  · cases hc : l.outgoingContext with
    | none => simp [hc] at he
    | some context =>
      rw [hc] at he
      rcases List.mem_pair.mp he with rfl | rfl <;> simp
  · cases hx : l.extensions.head? with
    | none => simp [hx] at he
    | some x =>
      rw [hx] at he
      rw [List.mem_singleton.mp he]
      simp [pickupEntry]

theorem key_of_mem_groupEntries {l : Line} {key : String} {role : PickupRole} {e : Entry}
    (he : e ∈ l.groupEntries key role) : e.key = key := by
  unfold groupEntries at he
  split at he
  · cases he
  · rw [List.mem_singleton.mp he]

end Line

namespace Owner

/-- The keys of the entries that owners add to the endpoint section. -/
def endpointKeys : List String := ["set_var", "context", "named_pickup_group", "named_call_group"]

theorem key_mem_of_mem_line_injection {l : Line} {e : Entry} (he : e ∈ l.injection.endpoint) :
    e.key ∈ endpointKeys := by
  simp only [Line.injection_endpoint, List.mem_append] at he
  rcases he with (he | he) | he
  · rcases Line.key_of_mem_callEntries he with h | h <;> simp [h, endpointKeys]
  · simp [Line.key_of_mem_groupEntries he, endpointKeys]
  · simp [Line.key_of_mem_groupEntries he, endpointKeys]

theorem key_mem_of_mem_injection {o : Owner} {tenant : TenantSettings} {e : Entry}
    (he : e ∈ (o.injection tenant).endpoint) : e.key ∈ endpointKeys := by
  rcases List.mem_append.mp he with he | he
  · cases o with
    | line l => exact key_mem_of_mem_line_injection he
    | trunk t =>
      rcases List.mem_cons.mp he with rfl | he
      · simp [endpointKeys]
      · cases hc : t.context with
        | none => simp [hc] at he
        | some context =>
          rw [hc] at he
          rw [List.mem_singleton.mp he]
          simp [endpointKeys]
    | meetingGuest g =>
      simp only [ownInjection, MeetingGuest.injection, List.mem_cons, List.not_mem_nil,
        or_false] at he
      rcases he with rfl | rfl | rfl <;> simp [endpointKeys]
  · rw [List.mem_singleton.mp he]
    simp [TenantSettings.recordingEntry, endpointKeys]

theorem key_of_mem_injection_aor {o : Owner} {tenant : TenantSettings} {e : Entry}
    (he : e ∈ (o.injection tenant).aor) : e.key = "mailboxes" := by
  cases o with
  | line l =>
    have he : e ∈ l.mailboxes.elim [] fun boxes => [⟨"mailboxes", boxes⟩] := he
    cases hb : l.mailboxes with
    | none => simp [hb] at he
    | some boxes =>
      rw [hb] at he
      rw [List.mem_singleton.mp he]
  | trunk t => cases he
  | meetingGuest g => cases he

end Owner

/-! ### Keys of a finished section -/

/-- The keys of the markers that close a section. -/
def Sections.markerKeys (final : Sections) : SectionKind → List String
  | .identify => ["type", "endpoint"]
  | .registration => "type" :: "endpoint" ::
      if final.registrationOutboundAuth = [] then [] else ["outbound_auth"]
  | .endpoint => "type" :: if final.outboundAuth = [] then [] else ["outbound_auth"]
  | _ => ["type"]

theorem Sections.nodup_markerKeys (final : Sections) (kind : SectionKind) :
    (final.markerKeys kind).Nodup := by
  cases kind with
  | registration => by_cases h : final.registrationOutboundAuth = [] <;> simp [markerKeys, h]
  | endpoint => by_cases h : final.outboundAuth = [] <;> simp [markerKeys, h]
  | _ => simp [markerKeys]

namespace Finish

variable {f : Finish} {final : Sections} {kind : SectionKind} {key : String} {o : Owner}
  {tenant : TenantSettings}

/-- The entries from which a finished section is made before it is closed. -/
def stream (f : Finish) (final : Sections) : SectionKind → Section
  | .aor => f.body.aor ++ f.injection.aor
  | .endpoint => f.endpointSources ++ derivedCallerId f.endpointSources ++ f.references final
  | kind => f.body.get kind

theorem keys_closing : Section.keys (⟨"type", kind.typeMarker⟩ :: f.closing final kind)
    = final.markerKeys kind := by
  cases kind with
  | registration =>
    by_cases h : final.registrationOutboundAuth = [] <;> simp [closing, Sections.markerKeys, h]
  | endpoint => by_cases h : final.outboundAuth = [] <;> simp [closing, Sections.markerKeys, h]
  | _ => rfl

theorem content_eq_canonicalize
    (canonical : f.canonicalizer.canonicalize (f.body.get kind) = f.body.get kind) :
    f.content final kind = f.canonicalizer.canonicalize (f.stream final kind) := by
  cases kind with
  | aor => rfl
  | endpoint => rfl
  | _ => exact canonical.symm

/-- A single key stands once for the stream and once more for a closing marker. -/
theorem count_keys_sections
    (canonical : f.canonicalizer.canonicalize (f.body.get kind) = f.body.get kind)
    (single : f.canonicalizer.isRepeatable key = false) :
    (f.sections.get kind).keys.count key = (if key ∈ (f.stream f.sections kind).keys then 1 else 0)
      + if f.stream f.sections kind ≠ [] ∧ key ∈ f.sections.markerKeys kind then 1 else 0 := by
  have content : f.content f.sections kind
      = f.canonicalizer.canonicalize (f.stream f.sections kind) := content_eq_canonicalize canonical
  by_cases none : f.stream f.sections kind = []
  · have empty : f.content f.sections kind = [] := by
      rw [content, none]
      rfl
    rw [sectionOf_sections, sectionOf_of_nil empty]
    simp [none]
  · have some : f.content f.sections kind ≠ [] := by
      rw [content]
      exact Canonicalizer.canonicalize_eq_nil_iff.not.mpr none
    rw [sectionOf_sections, sectionOf_of_ne_nil some, Section.keys_append, keys_closing,
      List.count_append, content, Canonicalizer.count_keys_canonicalize single,
      (Sections.nodup_markerKeys _ _).count]
    simp [none]

theorem key_of_mem_derivedCallerId {s : Section} (h : key ∈ (derivedCallerId s).keys) :
    key = "set_var" := by
  unfold derivedCallerId at h
  cases hv : s.value? "callerid" with
  | none => simp [hv] at h
  | some v => simpa [hv, Entry.setVar] using h

theorem key_of_mem_references (h : key ∈ (f.references final).keys) :
    key = "aors" ∨ key = "auth" := by
  have known : key ∈ ["aors", "auth"] := by
    unfold references at h
    split at h <;> split at h <;> simp_all
  simpa using known

/-- Of all that an endpoint section is made from, only the body can have the key of a marker. -/
theorem mem_keys_stream_endpoint_iff (injected : f.injection = o.injection tenant)
    (marker : key = "type" ∨ key = "outbound_auth") :
    key ∈ (f.stream final .endpoint).keys ↔ key ∈ f.body.endpoint.keys := by
  have apart : key ≠ "set_var" ∧ key ≠ "transport" := by
    rcases marker with rfl | rfl <;> simp
  have owner : key ∉ f.injection.endpoint.keys := by
    intro h
    obtain ⟨e, he, rfl⟩ := List.mem_map.mp h
    have known := Owner.key_mem_of_mem_injection (injected ▸ he)
    rcases marker with marker | marker <;> simp [marker, Owner.endpointKeys] at known
  have transport : key ∉ Section.keys
      (f.endpoint.transport.elim [] fun t => [⟨"transport", t⟩]) := by
    cases f.endpoint.transport <;> simp [apart]
  have derived : key ∉ (derivedCallerId f.endpointSources).keys := fun h =>
    apart.1 (key_of_mem_derivedCallerId h)
  have references : key ∉ (f.references final).keys := by
    intro h
    rcases key_of_mem_references h with rfl | rfl <;> simp at marker
  rw [stream, Section.keys_append, Section.keys_append, List.mem_append, List.mem_append,
    or_iff_left references, or_iff_left derived]
  simp [endpointSources, tenantMarker, apart, owner, transport]

theorem mem_keys_stream_iff (injected : f.injection = o.injection tenant)
    (marker : key ∈ final.markerKeys kind) :
    key ∈ (f.stream final kind).keys ↔ key ∈ (f.body.get kind).keys := by
  cases kind with
  | aor =>
    obtain rfl := List.mem_singleton.mp marker
    have owner : "type" ∉ f.injection.aor.keys := by
      intro h
      obtain ⟨e, he, hk⟩ := List.mem_map.mp h
      rw [Owner.key_of_mem_injection_aor (injected ▸ he)] at hk
      revert hk
      decide
    simp [stream, Sections.get, owner]
  | endpoint =>
    refine mem_keys_stream_endpoint_iff injected ?_
    by_cases h : final.outboundAuth = []
    · exact .inl (by simpa [Sections.markerKeys, h] using marker)
    · simpa [Sections.markerKeys, h] using marker
  | _ => rfl

end Finish

/-! ### Records -/

section
variable {c : Canonicalizer} {catalog : Catalog} {items : List Item} {tenants : TenantDirectory}

/-- A key that may not repeat stands at most twice in a section of a record. It stands twice exactly
when it is the key of a closing marker and the endpoint or an ancestor declares an entry of it. -/
theorem count_keys_record {r : Resolution} {record : ResolvedEndpoint}
    (h : resolve c catalog items tenants = .ok r) (hr : record ∈ r.records) (kind : SectionKind)
    {key : String} (single : c.isRepeatable key = false) :
    (record.sections.get kind).keys.count key ≤ 2 ∧
    ((record.sections.get kind).keys.count key = 2 ↔
      key ∈ record.sections.markerKeys kind ∧ catalog.Declares record.id kind key) := by
  obtain ⟨e, owner, body, _, _, _, hbody, sections⟩ := exists_finish h hr
  have grounded : catalog.Grounded record.id := (Catalog.clear_of_isOk ⟨body, hbody⟩).1
  have raw : body.get kind = c.canonicalize (catalog.rawEntries kind record.id) :=
    Catalog.body_get_of_inherit hbody kind
  have canonical : c.canonicalize (body.get kind) = body.get kind := by
    rw [raw, Canonicalizer.canonicalize_canonicalize]
  have declared : key ∈ (body.get kind).keys ↔ catalog.Declares record.id kind key := by
    rw [← Catalog.mem_keys_rawEntries_iff grounded, ← List.count_pos_iff, raw,
      Canonicalizer.count_keys_canonicalize single]
    by_cases hk : key ∈ (catalog.rawEntries kind record.id).keys <;> simp [hk]
  let f : Finish := ⟨c, e, body, owner.injection (tenants.settings record.tenantId)⟩
  change record.sections = f.sections at sections
  have count := Finish.count_keys_sections (f := f) canonical single
  rw [sections, count]
  by_cases marker : key ∈ f.sections.markerKeys kind
  · have streamed := (Finish.mem_keys_stream_iff (f := f) rfl marker).trans declared
    by_cases hd : catalog.Declares record.id kind key
    · have some : f.stream f.sections kind ≠ [] := by
        intro none
        have := streamed.mpr hd
        simp [none] at this
      simp [streamed.mpr hd, some, marker, hd]
    · simp only [streamed, hd, marker, if_false, and_true, and_false, Nat.zero_add, iff_false]
      split <;> omega
  · simp only [marker, and_false, if_false, false_and, iff_false, Nat.add_zero]
    split <;> omega

/-- A provider inherits from a template that names credentials, and has credentials of its own. -/
def outboundProvider : Catalog where
  endpoints := [
    { id := "provider", name := "provider", tenantId := "t", parents := ["carrier"],
      sections := { outboundAuth := [⟨"username", "u"⟩] } },
    { id := "carrier", name := "carrier", tenantId := "t", isTemplate := true,
      sections := { endpoint := [⟨"outbound_auth", "shared"⟩] } }]
  nodup_ids := by decide

/-- The template's entry and the closing marker both stand in the record. -/
theorem count_outboundProvider :
    ∃ r record, resolve .standard outboundProvider [⟨"provider", .trunk {}⟩] ∅ = .ok r ∧
      record ∈ r.records ∧ Canonicalizer.standard.isRepeatable "outbound_auth" = false ∧
      record.sections.endpoint.keys.count "outbound_auth" = 2 := by
  have single : Canonicalizer.standard.isRepeatable "outbound_auth" = false := by decide
  obtain ⟨r, ok, record, hr, id, marker⟩ :
      ∃ r, resolve .standard outboundProvider [⟨"provider", .trunk {}⟩] ∅ = .ok r ∧
        ∃ record ∈ r.records, record.id = "provider" ∧
          "outbound_auth" ∈ record.sections.markerKeys .endpoint := ⟨_, rfl, by decide⟩
  have parent : outboundProvider.Parent "provider" "carrier" := ⟨_, rfl, by decide⟩
  have declared : outboundProvider.Declares record.id .endpoint "outbound_auth" := by
    rw [id]
    exact ⟨"carrier", _, .single parent, rfl, by decide⟩
  exact ⟨r, record, ok, hr, single,
    (count_keys_record ok hr .endpoint single).2.mpr ⟨marker, declared⟩⟩

def typedPhone : Catalog where
  endpoints := [{
    id := "desk", name := "desk", tenantId := "t",
    sections := { auth := [⟨"username", "u"⟩, ⟨"type", "auth"⟩] } }]
  nodup_ids := by decide

/-- Not even an entry that is equal to the closing marker stands only once. -/
theorem typedPhone_repeats_type :
    ∃ r record, resolve .standard typedPhone [⟨"desk", .trunk {}⟩] ∅ = .ok r ∧
      record ∈ r.records ∧ Canonicalizer.standard.isRepeatable "type" = false ∧
      record.sections.auth = [⟨"username", "u"⟩, ⟨"type", "auth"⟩, ⟨"type", "auth"⟩] ∧
      record.sections.auth.keys.count "type" = 2 :=
  ⟨_, _, rfl, List.mem_singleton_self _, by decide, by decide, by decide⟩

end

end PbxTemplates
