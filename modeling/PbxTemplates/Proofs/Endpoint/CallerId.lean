import PbxTemplates.Proofs.Endpoint.ChannelVariables

/-!
# The original caller id

The variable that keeps the caller id is made from the stream of the endpoint section, before that
is canonical, and for this endpoint only. Nonetheless it has the caller id that the record shows,
even if caller ids may repeat, and a record without a caller id has it only from raw entries
(`original_callerId_record`).
-/

namespace PbxTemplates

/-! ### Names of variables -/

namespace ChannelVariable

variable {x y : ChannelVariable}

theorem takeWhile_text (plain : '=' ∉ x.name.toList) :
    x.text.toList.takeWhile (· != '=') = x.name.toList := by
  -- The value may hold equals signs, but the first one ends the name.
  have inside : ∀ a ∈ x.name.toList, (a != '=') = true := by
    intro a ha
    exact bne_iff_ne.mpr fun h => plain (h ▸ ha)
  rw [text, String.toList_append, String.toList_append, List.append_assoc,
    List.takeWhile_append_of_pos inside]
  exact List.append_nil _

theorem name_eq_of_text_eq (hx : '=' ∉ x.name.toList) (hy : '=' ∉ y.name.toList)
    (h : x.text = y.text) : x.name = y.name := by
  rw [← String.toList_inj, ← takeWhile_text hx, ← takeWhile_text hy, h]

end ChannelVariable

namespace Owner

def variableNames : List String :=
  ["WAZO_CHANNEL_DIRECTION", "WAZO_LINE_ID", "XIVO_USERID", "XIVO_USERUUID",
   "WAZO_USER_SIMULTCALLS", "TRANSFER_CONTEXT", "PICKUPMARK", "WAZO_MEETING_UUID",
   "WAZO_MEETING_NAME", "WAZO_MIXMONITOR_OPTIONS"]

theorem name_mem_variableNames {o : Owner} {tenant : Option TenantSettings} {x : ChannelVariable}
    (hx : x ∈ o.channelVariables tenant) : x.name ∈ variableNames := by
  rcases List.mem_append.mp hx with hx | hx
  · cases o with
    | line l =>
      simp only [ownChannelVariables, Line.channelVariables, List.mem_append, List.mem_map,
        List.mem_flatMap] at hx
      rcases hx with ((hx | ⟨u, _, hx⟩) | hx) | ⟨e, _, rfl⟩
      · rcases List.mem_pair.mp hx with rfl | rfl <;> simp [variableNames]
      · simp only [LineUser.channelVariables, List.mem_cons, List.not_mem_nil, or_false] at hx
        rcases hx with rfl | rfl | rfl <;> simp [variableNames]
      · simp [Line.name_of_mem_transferVariables hx, variableNames]
      · simp [variableNames]
    | trunk t =>
      rw [List.mem_singleton.mp hx]
      simp [variableNames]
    | meetingGuest g =>
      simp only [ownChannelVariables, List.mem_cons, List.not_mem_nil, or_false] at hx
      rcases hx with rfl | rfl | rfl <;> simp [variableNames]
  · rw [List.mem_singleton.mp hx]
    simp [variableNames]

/-- Neither the tenant nor an owner sets the variable that keeps the caller id. -/
theorem text_ne_original_callerId {x : ChannelVariable}
    (named : x.name ∈ "__WAZO_TENANT_UUID" :: variableNames) (w : String) :
    x.text ≠ "XIVO_ORIGINAL_CALLER_ID=" ++ w := by
  have plain : ∀ name ∈ "XIVO_ORIGINAL_CALLER_ID" :: "__WAZO_TENANT_UUID" :: variableNames,
      '=' ∉ name.toList := by decide
  have other : "XIVO_ORIGINAL_CALLER_ID" ∉ "__WAZO_TENANT_UUID" :: variableNames := by decide
  intro same
  have name : x.name = "XIVO_ORIGINAL_CALLER_ID" :=
    ChannelVariable.name_eq_of_text_eq (y := ⟨"XIVO_ORIGINAL_CALLER_ID", w⟩)
      (plain _ (List.mem_cons_of_mem _ named)) (plain _ List.mem_cons_self) same
  exact other (name ▸ named)

end Owner

/-! ### The caller id of an endpoint section -/

namespace Finish

variable {f : Finish} {o : Owner} {settings : TenantSettings} {tenant : Option TenantSettings}

theorem original_callerId_mem_variableTexts_iff {w : String} :
    "XIVO_ORIGINAL_CALLER_ID=" ++ w ∈ f.variableTexts o tenant ↔
      f.body.endpoint.value? "callerid" = some w ∨
        "XIVO_ORIGINAL_CALLER_ID=" ++ w ∈ f.body.endpoint.values "set_var" := by
  have marker : "XIVO_ORIGINAL_CALLER_ID=" ++ w ≠ "__WAZO_TENANT_UUID=" ++ f.endpoint.tenantId :=
    (Owner.text_ne_original_callerId (x := ⟨"__WAZO_TENANT_UUID", f.endpoint.tenantId⟩)
      List.mem_cons_self w).symm
  have owner :
      "XIVO_ORIGINAL_CALLER_ID=" ++ w ∉ (o.channelVariables tenant).map (·.text) := by
    intro h
    obtain ⟨x, hx, same⟩ := List.mem_map.mp h
    have named : x.name ∈ "__WAZO_TENANT_UUID" :: Owner.variableNames :=
      List.mem_cons_of_mem _ (Owner.name_mem_variableNames hx)
    exact Owner.text_ne_original_callerId named w same
  have derived : "XIVO_ORIGINAL_CALLER_ID=" ++ w ∈ ((f.body.endpoint.value? "callerid").toList.map
      fun c => "XIVO_ORIGINAL_CALLER_ID=" ++ c) ↔ f.body.endpoint.value? "callerid" = some w := by
    simp [String.append_right_inj]
  rw [variableTexts, List.mem_append, List.mem_append, List.mem_cons, or_iff_right marker,
    or_iff_right owner, derived, or_comm]

/-- The caller ids of the section are those of the body, however often the key may stand. -/
theorem values_callerid_sections (injected : f.injection = o.injection settings)
    (canonical : f.canonicalizer.canonicalize f.body.endpoint = f.body.endpoint) :
    f.sections.endpoint.values "callerid" = f.body.endpoint.values "callerid" := by
  have owner : f.injection.endpoint.values "callerid" = [] :=
    Section.values_eq_nil_iff.mpr (callerid_not_injected injected)
  have derived : (derivedCallerId f.endpointSources).values "callerid" = [] :=
    Section.values_eq_nil_iff.mpr fun h =>
      absurd (key_of_mem_derivedCallerId h) (by decide)
  -- The stream agrees with the body on this key, so the canonical forms of both do.
  have streamed : (f.stream f.sections .endpoint).values "callerid"
      = f.body.endpoint.values "callerid" := by
    rw [values_stream_endpoint (by decide) (by decide) (by decide), Section.values_append, derived,
      List.append_nil, Section.values_append, Section.values_cons, tenantMarker, Entry.key_setVar,
      if_neg (by decide), owner, List.nil_append]
  rw [values_sections_endpoint (by decide) (by decide),
    Canonicalizer.values_canonicalize_congr streamed, canonical]

end Finish

/-! ### Records -/

section
variable {catalog : Catalog} {items : List Item} {tenants : TenantDirectory} {r : Resolution}
  {record : ResolvedEndpoint} {keys : List String}

/-- A record keeps an original caller id exactly if that is the caller id it shows or the endpoint
or an ancestor declares it as a variable. So nothing that was derived for an ancestor is there. -/
theorem original_callerId_record
    (h : resolve (Canonicalizer.standard.allowing keys) catalog items tenants = .ok r)
    (hr : record ∈ r.records) (w : String) :
    "XIVO_ORIGINAL_CALLER_ID=" ++ w ∈ record.sections.endpoint.values "set_var" ↔
      record.sections.endpoint.value? "callerid" = some w ∨
        catalog.DeclaresEntry record.id .endpoint
          ⟨"set_var", "XIVO_ORIGINAL_CALLER_ID=" ++ w⟩ := by
  obtain ⟨e, owner, body, _, _, _, hbody, sections⟩ := exists_finish h hr
  let f : Finish := ⟨Canonicalizer.standard.allowing keys, e, body,
    owner.injection (tenants.settings record.tenantId)⟩
  have canonical : f.canonicalizer.canonicalize f.body.endpoint = f.body.endpoint := by
    have raw : body.endpoint = _ := Catalog.body_get_of_inherit hbody .endpoint
    exact raw ▸ Canonicalizer.canonicalize_canonicalize
  have values := Finish.values_setVar_sections (f := f) rfl (Canonicalizer.isRepeatable_setVar keys)
  have callerId := Finish.values_callerid_sections (f := f) rfl canonical
  have declared : "XIVO_ORIGINAL_CALLER_ID=" ++ w ∈ (body.get .endpoint).values "set_var" ↔ _ :=
    Catalog.mem_values_body_iff hbody (Canonicalizer.isRepeatable_setVar keys)
  rw [← sections] at values callerId
  rw [values, List.mem_eraseDups, Finish.original_callerId_mem_variableTexts_iff,
    Section.value?, Section.value?, callerId]
  exact or_congr_right declared

/-- A desk that inherits from the front desk, both with a caller id of their own. -/
def twoDesks : Catalog where
  endpoints := [
    { id := "desk", name := "desk", tenantId := "t", parents := ["front"],
      sections := { endpoint := [⟨"callerid", "Desk"⟩] } },
    { id := "front", name := "front", tenantId := "t",
      sections := { endpoint := [⟨"callerid", "Front"⟩] } }]
  nodup_ids := by decide

/-- Where caller ids may repeat, the desk shows both, and only its own counts as the original. -/
theorem original_callerId_twoDesks :
    ∃ r record, resolve (Canonicalizer.standard.allowing ["callerid"]) twoDesks
        [⟨"desk", .trunk {}⟩, ⟨"front", .trunk {}⟩] ∅ = .ok r ∧ record ∈ r.records ∧
      record.sections.endpoint.values "callerid" = ["Front", "Desk"] ∧
      "XIVO_ORIGINAL_CALLER_ID=Desk" ∈ record.sections.endpoint.values "set_var" ∧
      "XIVO_ORIGINAL_CALLER_ID=Front" ∉ record.sections.endpoint.values "set_var" := by
  obtain ⟨r, ok, record, hr, shown, absent⟩ :
      ∃ r, resolve (Canonicalizer.standard.allowing ["callerid"]) twoDesks
          [⟨"desk", .trunk {}⟩, ⟨"front", .trunk {}⟩] ∅ = .ok r ∧
        ∃ record ∈ r.records, record.sections.endpoint.values "callerid" = ["Front", "Desk"] ∧
          "XIVO_ORIGINAL_CALLER_ID=Front" ∉ record.sections.endpoint.values "set_var" :=
    ⟨_, rfl, by decide⟩
  have last : record.sections.endpoint.value? "callerid" = some "Desk" := by
    rw [Section.value?, shown]
    rfl
  have kept := (original_callerId_record ok hr "Desk").mpr (.inl last)
  exact ⟨r, record, ok, hr, shown, kept, absent⟩

end

end PbxTemplates
