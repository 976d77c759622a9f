import PbxTemplates.Proofs.Endpoint.Precedence

/-!
# The channel variables of a record

The endpoint section of a record sets the variables of its tenant and of its owner, those of the
body, and one that keeps the caller id. They come together before repeats are dropped, so the
tenant's variable stands first and no variable of the owner is lost, whatever the templates set
(`channel_variables_record`).
-/

namespace PbxTemplates

theorem Section.values_flatMap {α : Type} {l : List α} {f : α → Section} {key : String} :
    Section.values (l.flatMap f) key = l.flatMap fun x => (f x).values key := by
  simp [Section.values, List.filter_flatMap, List.map_flatMap]

/-- A variable that a channel starts with. -/
structure ChannelVariable where
  name : String
  value : String
deriving DecidableEq

def ChannelVariable.text (x : ChannelVariable) : String := x.name ++ "=" ++ x.value

/-! ### Variables of owners -/

def LineUser.channelVariables (u : LineUser) : List ChannelVariable :=
  [⟨"XIVO_USERID", toString u.id⟩,
   ⟨"XIVO_USERUUID", u.uuid⟩,
   ⟨"WAZO_USER_SIMULTCALLS", toString u.simultaneousCalls⟩]

/-- The context to which calls of a line are transferred: that of its application if it is bound to
one, else its own if it has one. -/
def Line.transferVariables (l : Line) : List ChannelVariable :=
  match l.applicationUuid, l.context with
  | some application, _ => [⟨"TRANSFER_CONTEXT", "stasis-wazo-app-" ++ application⟩]
  | none, some context => [⟨"TRANSFER_CONTEXT", context⟩]
  | none, none => []

theorem Line.name_of_mem_transferVariables {l : Line} {x : ChannelVariable}
    (hx : x ∈ l.transferVariables) : x.name = "TRANSFER_CONTEXT" := by
  unfold transferVariables at hx
  split at hx
  · rw [List.mem_singleton.mp hx]
  · rw [List.mem_singleton.mp hx]
  · cases hx

/-- The variables that a line sets: its own two, three for each user, the context of its calls and
the main extension for pickup. -/
def Line.channelVariables (l : Line) : List ChannelVariable :=
  [⟨"WAZO_CHANNEL_DIRECTION", "from-wazo"⟩, ⟨"WAZO_LINE_ID", toString l.id⟩]
    ++ l.users.flatMap (·.channelVariables) ++ l.transferVariables
    ++ l.extensions.head?.toList.map fun e => ⟨"PICKUPMARK", e.exten ++ "%" ++ e.context⟩

/-- The options of the recorder, from what the directory has for the tenant. -/
def recorderOptions : Option TenantSettings → String
  | none => ""
  | some ⟨none, none⟩ => ""
  | some ⟨some start, none⟩ => "p(" ++ start ++ ")"
  | some ⟨none, some stop⟩ => "P(" ++ stop ++ ")"
  | some ⟨some start, some stop⟩ => "p(" ++ start ++ ")P(" ++ stop ++ ")"

theorem mixMonitorOptions_getD (tenant : Option TenantSettings) :
    (tenant.getD {}).mixMonitorOptions = recorderOptions tenant := by
  rcases tenant with _ | ⟨_ | start, _ | stop⟩
  · rfl
  · rfl
  · exact String.empty_append
  · exact String.append_empty
  · have clauses : ")P(" = ")" ++ "P(" := rfl
    simp only [Option.getD_some, TenantSettings.mixMonitorOptions, Option.elim_some,
      recorderOptions, clauses, String.append_assoc]

namespace Owner

def ownChannelVariables : Owner → List ChannelVariable
  | line l => l.channelVariables
  | trunk _ => [⟨"WAZO_CHANNEL_DIRECTION", "to-wazo"⟩]
  | meetingGuest g => [⟨"WAZO_CHANNEL_DIRECTION", "from-wazo"⟩,
      ⟨"WAZO_MEETING_UUID", g.meetingUuid⟩, ⟨"WAZO_MEETING_NAME", g.meetingName⟩]

/-- All variables that an owner sets, those of the recorder last. -/
def channelVariables (o : Owner) (tenant : Option TenantSettings) : List ChannelVariable :=
  o.ownChannelVariables ++ [⟨"WAZO_MIXMONITOR_OPTIONS", recorderOptions tenant⟩]

theorem values_groupEntries {l : Line} {key : String} {role : PickupRole} (h : key ≠ "set_var") :
    (l.groupEntries key role).values "set_var" = [] := by
  refine Section.values_eq_nil_iff.mpr fun hk => ?_
  obtain ⟨e, he, hk⟩ := List.mem_map.mp hk
  exact h ((Line.key_of_mem_groupEntries he).symm.trans hk)

theorem values_entries (u : LineUser) :
    Section.values u.entries "set_var" = u.channelVariables.map (·.text) := by
  rw [LineUser.entries, Decimal.text_eq_toString, Decimal.text_eq_toString]
  rfl

theorem values_contextEntries (l : Line) :
    Section.values (l.outgoingContext.elim [] Line.contextEntries) "set_var"
      = l.transferVariables.map (·.text) := by
  rw [Line.outgoingContext, Line.transferVariables]
  cases l.applicationUuid with
  | some application => rfl
  | none => cases l.context <;> rfl

theorem values_line_injection (l : Line) :
    l.injection.endpoint.values "set_var" = l.channelVariables.map (·.text) := by
  have users : Section.values (l.users.flatMap (·.entries)) "set_var"
      = (l.users.flatMap (·.channelVariables)).map (·.text) := by
    rw [Section.values_flatMap, List.map_flatMap]
    exact List.flatMap_congr fun u _ => values_entries u
  have pickup : Section.values (l.extensions.head?.elim [] fun e => [Line.pickupEntry e]) "set_var"
      = (l.extensions.head?.toList.map fun e =>
          (⟨"PICKUPMARK", e.exten ++ "%" ++ e.context⟩ : ChannelVariable)).map (·.text) := by
    cases l.extensions.head? <;> rfl
  have pickupGroups : (l.groupEntries "named_pickup_group" .pickup).values "set_var" = [] :=
    values_groupEntries (by decide)
  have callGroups : (l.groupEntries "named_call_group" .call).values "set_var" = [] :=
    values_groupEntries (by decide)
  simp only [Line.injection, Line.channelVariables, Section.values_append, List.map_append, users,
    values_contextEntries, pickup, pickupGroups, callGroups, List.append_nil,
    Decimal.text_eq_toString]
  rfl

theorem values_injection (o : Owner) (tenant : Option TenantSettings) :
    (o.injection (tenant.getD {})).endpoint.values "set_var"
      = (o.channelVariables tenant).map (·.text) := by
  have own : o.ownInjection.endpoint.values "set_var" = o.ownChannelVariables.map (·.text) := by
    cases o with
    | line l => exact values_line_injection l
    | trunk t => rcases t with ⟨_ | context⟩ <;> rfl
    | meetingGuest g => rfl
  rw [injection, Section.values_append, own, channelVariables, List.map_append,
    TenantSettings.recordingEntry, mixMonitorOptions_getD]
  rfl

end Owner

/-! ### Variables of an endpoint section -/

namespace Finish

variable {f : Finish} {final : Sections} {o : Owner} {settings : TenantSettings}
  {tenant : Option TenantSettings} {key : String}

/-- Neither the transport nor the references count for any other key than their own. -/
theorem values_stream_endpoint (transport : key ≠ "transport") (aors : key ≠ "aors")
    (auth : key ≠ "auth") : (f.stream final .endpoint).values key
      = Section.values (tenantMarker f.endpoint.tenantId :: f.injection.endpoint
          ++ f.body.endpoint ++ derivedCallerId f.endpointSources) key := by
  have assigned : Section.values
      (f.endpoint.transport.elim [] fun t => [⟨"transport", t⟩]) key = [] := by
    cases f.endpoint.transport <;> simp [Section.values_cons, transport.symm]
  have references : (f.references final).values key = [] :=
    Section.values_eq_nil_iff.mpr fun h => (key_of_mem_references h).elim aors auth
  rw [stream, endpointSources, Section.values_append, Section.values_append, references,
    Section.values_append, assigned, List.append_nil, List.append_nil, ← endpointSources,
    ← Section.values_append]

theorem values_derivedCallerId {s : Section} : (derivedCallerId s).values "set_var"
    = (s.value? "callerid").toList.map fun c => "XIVO_ORIGINAL_CALLER_ID=" ++ c := by
  rw [derivedCallerId]
  cases s.value? "callerid" <;> rfl

theorem callerid_not_injected (injected : f.injection = o.injection settings) :
    "callerid" ∉ f.injection.endpoint.keys := by
  intro h
  obtain ⟨e, he, hk⟩ := List.mem_map.mp h
  have known := Owner.key_mem_of_mem_injection (injected ▸ he)
  simp [hk, Owner.endpointKeys] at known

/-- No owner injects a caller id, so the one in sight is that of the body. -/
theorem value?_callerid (injected : f.injection = o.injection settings) :
    f.endpointSources.value? "callerid" = f.body.endpoint.value? "callerid" := by
  rw [value?_endpointSources (by decide),
    Section.value?_eq_none_iff.mpr (callerid_not_injected injected), Option.or_none]
  rfl

/-- What is set for the endpoint of an owner, repeats included. -/
def variableTexts (f : Finish) (o : Owner) (tenant : Option TenantSettings) : List String :=
  ("__WAZO_TENANT_UUID=" ++ f.endpoint.tenantId) :: (o.channelVariables tenant).map (·.text)
    ++ f.body.endpoint.values "set_var"
    ++ (f.body.endpoint.value? "callerid").toList.map fun c => "XIVO_ORIGINAL_CALLER_ID=" ++ c

theorem values_setVar_stream (injected : f.injection = o.injection (tenant.getD {})) :
    (f.stream final .endpoint).values "set_var" = f.variableTexts o tenant := by
  rw [values_stream_endpoint (by decide) (by decide) (by decide), Section.values_append,
    Section.values_append, values_derivedCallerId, value?_callerid injected, injected,
    variableTexts, ← Owner.values_injection]
  rfl

theorem values_setVar_sections (injected : f.injection = o.injection (tenant.getD {}))
    (repeatable : f.canonicalizer.isRepeatable "set_var" = true) :
    f.sections.endpoint.values "set_var" = (f.variableTexts o tenant).eraseDups := by
  rw [values_sections_endpoint (by decide) (by decide), Canonicalizer.values_canonicalize,
    if_pos repeatable, values_setVar_stream injected]

end Finish

/-! ### Records -/

section
variable {c : Canonicalizer} {catalog : Catalog} {items : List Item} {tenants : TenantDirectory}
  {r : Resolution} {record : ResolvedEndpoint} {keys : List String}

/-- The variables of a record, in order and without repeats: that of its tenant, those of its owner,
those of the body and the caller id of the body. That of the tenant stands first and none of the
owner is missing. -/
theorem channel_variables_record
    (h : resolve (Canonicalizer.standard.allowing keys) catalog items tenants = .ok r)
    (hr : record ∈ r.records) :
    ∃ owner body, (∀ o, ⟨record.id, o⟩ ∈ items ↔ o = owner) ∧
      catalog.inherit (Endpoint.body (Canonicalizer.standard.allowing keys)) [] record.id none
        = .ok body ∧
      let injected := owner.channelVariables (tenants.get? record.tenantId)
      record.sections.endpoint.values "set_var" =
        (("__WAZO_TENANT_UUID=" ++ record.tenantId) :: injected.map (·.text)
          ++ body.endpoint.values "set_var"
          ++ (body.endpoint.value? "callerid").toList.map fun c =>
            "XIVO_ORIGINAL_CALLER_ID=" ++ c).eraseDups ∧
      (record.sections.endpoint.values "set_var").head?
        = some ("__WAZO_TENANT_UUID=" ++ record.tenantId) ∧
      ∀ x ∈ injected, x.text ∈ record.sections.endpoint.values "set_var" := by
  obtain ⟨e, owner, body, _, tenant, sole, hbody, sections⟩ := exists_finish h hr
  let f : Finish := ⟨Canonicalizer.standard.allowing keys, e, body,
    owner.injection (tenants.settings record.tenantId)⟩
  have values := Finish.values_setVar_sections (f := f) rfl (Canonicalizer.isRepeatable_setVar keys)
  rw [← sections, Finish.variableTexts, ← tenant] at values
  refine ⟨owner, body, sole, hbody, values, ?_, fun x hx => ?_⟩
  · rw [values, List.cons_append, List.cons_append, List.eraseDups_cons, List.head?_cons]
  · rw [values, List.mem_eraseDups]
    simp only [List.mem_append, List.mem_cons]
    exact .inl (.inl (.inr (List.mem_map_of_mem hx)))

/-- A phone whose template sets variables that the tenant and the owner set too. -/
def presetPhone : Catalog where
  endpoints := [
    { id := "desk", name := "desk", tenantId := "t", parents := ["preset"] },
    { id := "preset", name := "preset", tenantId := "t", isTemplate := true,
      sections := { endpoint := [.setVar "XIVO_USERID" "1", .setVar "XIVO_USERUUID" "x",
        .setVar "__WAZO_TENANT_UUID" "x", ⟨"callerid", "desk <1001>"⟩] } }]
  nodup_ids := by decide

theorem inherit_presetPhone :
    presetPhone.inherit (Endpoint.body (Canonicalizer.standard.allowing [])) [] "desk" none
      = .ok { endpoint := [⟨"callerid", "desk <1001>"⟩, .setVar "XIVO_USERID" "1",
          .setVar "XIVO_USERUUID" "x", .setVar "__WAZO_TENANT_UUID" "x"] } := by
  have preset : presetPhone.inherit (Endpoint.body (Canonicalizer.standard.allowing [])) ["desk"]
      "preset" (some "desk") = .ok _ := (Catalog.inherit_of_get (by decide) rfl).trans rfl
  rw [Catalog.inherit_of_get (by decide) rfl]
  simp only [List.mapM_cons, List.mapM_nil, List.nil_append, preset]
  rfl

def presetPhoneOwner : Owner := .line
  { id := 7, context := some "internal", applicationUuid := some "a",
    users := [{ id := 1, uuid := "u" }], extensions := [⟨"1001", "internal"⟩] }

def presetPhoneTenants : TenantDirectory :=
  .ofList [("s", {}), ("t", { startAnnouncement := some "on", stopAnnouncement := some "off" })]

theorem channel_variables_presetPhone :
    ∃ r record, resolve (Canonicalizer.standard.allowing []) presetPhone
        [⟨"desk", presetPhoneOwner⟩] presetPhoneTenants = .ok r ∧ record ∈ r.records ∧
      record.sections.endpoint.values "set_var" =
        ["__WAZO_TENANT_UUID=t", "WAZO_CHANNEL_DIRECTION=from-wazo", "WAZO_LINE_ID=7",
          "XIVO_USERID=1", "XIVO_USERUUID=u", "WAZO_USER_SIMULTCALLS=5",
          "TRANSFER_CONTEXT=stasis-wazo-app-a", "PICKUPMARK=1001%internal",
          "WAZO_MIXMONITOR_OPTIONS=p(on)P(off)", "XIVO_USERUUID=x", "__WAZO_TENANT_UUID=x",
          "XIVO_ORIGINAL_CALLER_ID=desk <1001>"] := by
  obtain ⟨r, ok, record, hr, id, tenant⟩ :
      ∃ r, resolve (Canonicalizer.standard.allowing []) presetPhone
          [⟨"desk", presetPhoneOwner⟩] presetPhoneTenants = .ok r ∧
        ∃ record ∈ r.records, record.id = "desk" ∧ record.tenantId = "t" := ⟨_, rfl, by decide⟩
  obtain ⟨owner, body, sole, inherits, values, _⟩ := channel_variables_record ok hr
  obtain rfl := (sole presetPhoneOwner).mp (by rw [id]; exact List.mem_singleton_self _)
  rw [id] at inherits
  obtain rfl := Except.ok.inj (inherit_presetPhone.symm.trans inherits)
  rw [tenant] at values
  exact ⟨r, record, ok, hr, values.trans (by decide)⟩

end

end PbxTemplates
