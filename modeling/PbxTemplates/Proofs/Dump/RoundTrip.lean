import PbxTemplates.Dump.Format
import PbxTemplates.Proofs.FunctionKey.Position
import PbxTemplates.Proofs.Json.Document
import PbxTemplates.Proofs.Section.Form

/-!
# Dumps can be read again

All values that a dump holds are written in lawful forms. A dump nests seven levels deep, and a
document may have 127 of them. So a dump that is printed in either layout, its tenants in any order,
reads back as itself (`Dump.parse_text`), and reading a document, writing what it says and reading
that again is the same as reading it once.
-/

namespace PbxTemplates
open Form Record

variable {depth : Nat}

/-! ### Endpoints -/

theorem Endpoint.lawful_form : Endpoint.form.Lawful (depth + 3) :=
  Record.Lawful.tableForm
    (((lawful_required lawful_text).and <| (lawful_required lawful_text).and <|
      (lawful_defaulted lawful_text).and <| (lawful_optional lawful_text fun _ => nofun).and <|
      (lawful_required lawful_text).and <| (lawful_defaulted lawful_bool).and <|
      (lawful_defaulted lawful_text.list).and <|
      (lawful_optional lawful_text fun _ => nofun).and Sections.lawful_declared).convert
      fun _ => rfl)
    (by decide)

/-! ### Owners -/

theorem Voicemail.lawful_form : Voicemail.form.Lawful (depth + 1) :=
  Record.Lawful.form
    (((lawful_required lawful_text).and (lawful_required lawful_text)).convert fun _ => rfl)
    (by decide)

theorem LineUser.lawful_form : LineUser.form.Lawful (depth + 2) :=
  Record.Lawful.form
    (((lawful_required lawful_word64).and <| (lawful_required lawful_text).and <|
      (lawful_defaulted lawful_word32).and
        (lawful_optional Voicemail.lawful_form fun _ => nofun)).convert fun _ => rfl)
    (by decide)

theorem Extension.lawful_form : Extension.form.Lawful (depth + 1) :=
  Record.Lawful.form
    (((lawful_required lawful_text).and (lawful_required lawful_text)).convert fun _ => rfl)
    (by decide)

theorem PickupRole.lawful_form : PickupRole.form.Lawful depth :=
  lawful_choice (by decide) fun role => by cases role <;> decide

theorem PickupMembership.lawful_form : PickupMembership.form.Lawful (depth + 1) :=
  Record.Lawful.form
    (((lawful_required lawful_word64).and (lawful_required PickupRole.lawful_form)).convert
      fun _ => rfl)
    (by decide)

theorem Line.lawful_record : Line.record.Lawful (depth + 3) :=
  ((lawful_required lawful_word64).and <| (lawful_optional lawful_text fun _ => nofun).and <|
    (lawful_optional lawful_text fun _ => nofun).and <|
    (lawful_defaulted LineUser.lawful_form.list).and <|
    (lawful_defaulted Extension.lawful_form.list).and
      (lawful_defaulted PickupMembership.lawful_form.list)).convert fun _ => rfl

theorem Trunk.lawful_record : Trunk.record.Lawful depth :=
  (lawful_optional lawful_text fun _ => nofun).convert fun _ => rfl

theorem MeetingGuest.lawful_record : MeetingGuest.record.Lawful depth :=
  ((lawful_required lawful_text).and (lawful_required lawful_text)).convert fun _ => rfl

theorem Owner.lawful_form : Owner.form.Lawful (depth + 4) := by
  refine Case.lawful_form ?_ (by decide) ?_
  · simp only [cases, List.forall_mem_cons]
    refine ⟨⟨Line.lawful_record, by decide, ?_⟩, ⟨Trunk.lawful_record, by decide, ?_⟩,
      ⟨MeetingGuest.lawful_record, by decide, ?_⟩, nofun⟩
    all_goals
      rintro ⟨⟩ _ ⟨⟩
      rfl
  · intro owner
    cases owner <;> simp [cases]

theorem Item.lawful_form : Item.form.Lawful (depth + 5) :=
  Record.Lawful.form
    (((lawful_required lawful_text).and (lawful_required Owner.lawful_form)).convert fun _ => rfl)
    (by decide)

/-! ### Tenants -/

theorem TenantSettings.lawful_form : TenantSettings.form.Lawful (depth + 1) :=
  Record.Lawful.form
    (((lawful_optional lawful_text fun _ => nofun).and
      (lawful_optional lawful_text fun _ => nofun)).convert fun _ => rfl)
    (by decide)

theorem TenantDirectory.lawful_formIn (order : MemberOrder TenantSettings) :
    (TenantDirectory.formIn order).Lawful (depth + 2) :=
  TenantSettings.lawful_form.dictionary order

/-! ### Function keys -/

theorem Destination.lawful_cases : ∀ c ∈ cases, c.Lawful depth := by
  have word : ∀ {name : String}, (required name .word64).Lawful depth :=
    lawful_required lawful_word64
  have text : ∀ {name : String}, (required name .text).Lawful depth := lawful_required lawful_text
  simp only [cases, List.forall_mem_cons]
  refine ⟨⟨word, by decide, ?_⟩, ⟨word, by decide, ?_⟩, ⟨word, by decide, ?_⟩,
    ⟨word, by decide, ?_⟩, ⟨word, by decide, ?_⟩,
    ⟨word.and (lawful_required lawful_word32), by decide, ?_⟩, ⟨text, by decide, ?_⟩,
    ⟨text, by decide, ?_⟩, ⟨text.and (lawful_optional lawful_text fun _ => nofun), by decide, ?_⟩,
    ⟨text, by decide, ?_⟩, ⟨word.and text, by decide, ?_⟩, ⟨word, by decide, ?_⟩, nofun⟩
  all_goals
    rintro ⟨⟩ _ ⟨⟩
    rfl

theorem Destination.lawful_form : Destination.form.Lawful (depth + 1) := by
  refine Case.lawful_form lawful_cases (by decide) ?_
  intro destination
  cases destination <;> simp [cases]

theorem FunctionKey.lawful_form : FunctionKey.form.Lawful (depth + 2) :=
  Record.Lawful.form
    (((lawful_optional lawful_text fun _ => nofun).and <| (lawful_defaulted lawful_bool).and <|
      (lawful_defaulted lawful_bool).and (lawful_required Destination.lawful_form)).convert
      fun _ => rfl)
    (by decide)

theorem KeyMap.lawful_form : KeyMap.form.Lawful (depth + 3) where
  readable keys := (FunctionKey.lawful_form.dictionary .byName).readable keys.toTexts
  read_write keys r hr := by
    have read := (FunctionKey.lawful_form.dictionary .byName).read_write keys.toTexts r hr
    simp only [KeyMap.form, read, ofTexts_toTexts]
    rfl

theorem KeyTemplate.lawful_form : KeyTemplate.form.Lawful (depth + 4) :=
  Record.Lawful.form
    (((lawful_optional lawful_word64 fun _ => nofun).and <|
      (lawful_optional lawful_text fun _ => nofun).and <|
      (lawful_defaulted lawful_bool).and (lawful_defaulted KeyMap.lawful_form)).convert
      fun _ => rfl)
    (by decide)

theorem KeyUser.lawful_form : KeyUser.form.Lawful (depth + 1) :=
  Record.Lawful.form
    (((lawful_required lawful_word64).and <|
      (lawful_optional lawful_word64 fun _ => nofun).and
        (lawful_optional lawful_word64 fun _ => nofun)).convert fun _ => rfl)
    (by decide)

/-! ### Dumps -/

namespace Dump

variable {order : MemberOrder TenantSettings} {l : Json.Layout}

theorem lawful_formIn : (Dump.formIn order).Lawful (depth + 7) := by
  have names : ["endpoints", "items", "tenants", "func_key_templates", "func_key_users"].Nodup := by
    decide
  exact Record.Lawful.form
    (((lawful_defaulted Endpoint.lawful_form.list).and <|
      (lawful_defaulted Item.lawful_form.list).and <|
      (lawful_defaulted (TenantDirectory.lawful_formIn order)).and <|
      (lawful_defaulted KeyTemplate.lawful_form.list).and
        (lawful_defaulted KeyUser.lawful_form.list)).convert fun _ => rfl)
    names

/-- No order of the tenants is expected when a dump is read. -/
theorem decode_formIn (text : String) : Json.decode (formIn order) text = Dump.parse .json text :=
  rfl

theorem parse_text_of_blank (hl : l.Blank) (d : Dump) :
    Dump.parse .json (Json.text l ((formIn order).write d)) = .ok d := by
  have lawful : (formIn order).Lawful 7 := lawful_formIn
  rw [← decode_formIn]
  exact lawful.decode_text (by decide) hl d

/-- A dump that is written, in one line or indented and with its tenants in any order, reads back as
itself. So what a document of either format says does not change if it is written and read again. -/
theorem parse_text (pretty : Bool) :
    (∀ (d : Dump) (order : MemberOrder TenantSettings), Dump.parse .json
      (Json.text (if pretty then .indented else .compact) ((formIn order).write d)) = .ok d) ∧
    (∀ (d : Dump) (tenants : List (String × TenantSettings)), tenants.Perm d.tenants.toList →
      ∃ order : MemberOrder TenantSettings, order.list d.tenants = tenants) ∧
    ∀ (format : DumpFormat) (text : String) (order : MemberOrder TenantSettings),
      (Dump.parse format text).bind (fun d => Dump.parse .json
        (Json.text (if pretty then .indented else .compact) ((formIn order).write d)))
        = Dump.parse format text := by
  have blank := Json.Layout.blank_of_pretty pretty
  refine ⟨fun d order => parse_text_of_blank blank d,
    fun _ _ => MemberOrder.exists_list_eq, fun format text order => ?_⟩
  cases Dump.parse format text with
  | error err => rfl
  | ok d => exact parse_text_of_blank blank d

def twoTenants : Dump where
  tenants := .ofList [("a", {}), ("b", { startAnnouncement := some "on" })]

theorem parse_twoTenants :
    [("b", { startAnnouncement := some "on" }), ("a", {})].Perm twoTenants.tenants.toList ∧
    ∃ order : MemberOrder TenantSettings,
      order.list twoTenants.tenants = [("b", { startAnnouncement := some "on" }), ("a", {})] ∧
      Dump.parse .json (Json.text .compact ((formIn order).write twoTenants)) = .ok twoTenants := by
  obtain ⟨reads, orders, _⟩ := parse_text false
  have perm : [("b", { startAnnouncement := some "on" }), ("a", {})].Perm
      twoTenants.tenants.toList := by decide
  obtain ⟨order, listed⟩ := orders twoTenants _ perm
  exact ⟨perm, order, listed, reads twoTenants order⟩

end Dump

end PbxTemplates
