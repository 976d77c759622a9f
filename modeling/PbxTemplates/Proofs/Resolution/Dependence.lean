import PbxTemplates.Proofs.Resolution.Recursion

/-!
# What a record depends on

A record shows its own endpoint, its own owner and the settings of its own tenant. Of an ancestor it
shows the entries and the parents only. So two resolutions that agree on this much give equal
records, however different their catalogs, their items and their tenants are otherwise
(`record_eq_of_agree`).
-/

namespace PbxTemplates
open Relation

variable {c : Canonicalizer} {catalog catalog₁ catalog₂ : Catalog} {items items₁ items₂ : List Item}
  {tenants tenants₁ tenants₂ : TenantDirectory} {e e₁ e₂ : Endpoint} {o : Owner}

theorem Endpoint.body_congr (h : e₂.sections = e₁.sections) : e₂.body c = e₁.body c := by
  funext parents
  rw [Endpoint.body, Endpoint.body, h]

theorem record_eq {r : Resolution} {record : ResolvedEndpoint}
    (h : resolve c catalog items tenants = .ok r) (hr : record ∈ r.records)
    (held : catalog.get? record.id = some e) (owned : ⟨record.id, o⟩ ∈ items) :
    ∃ body, catalog.inherit (Endpoint.body c) [] record.id none = .ok body ∧
      record = BuiltEndpoint.record ⟨e, some o, body⟩ c (tenants.settings e.tenantId) := by
  obtain ⟨owners, _, ho, _, howned, rfl⟩ := resolve_eq_ok_iff.mp h
  obtain ⟨e', o', body, held', owned', hbody, hrecord⟩ :=
    mem_complete ho buildOrder_itemWalk howned hr
  obtain rfl : e = e' := Option.some.inj (held.symm.trans held')
  obtain rfl : o = o' := OwnerTable.owner_eq_of_mem ho owned owned'
  exact ⟨body, hbody, hrecord⟩

/-- Two catalogs compute the same for an endpoint if both hold it and the second one holds all its
ancestors with the same parents and the same entries. -/
theorem inherit_eq_of_agree {body : Sections} (held₁ : catalog₁.get? e.id = some e)
    (held₂ : catalog₂.get? e.id = some e)
    (ancestors : ∀ a, catalog₁.Ancestor e.id a → ∀ e₁, catalog₁.get? a = some e₁ →
      ∃ e₂, catalog₂.get? a = some e₂ ∧ e₂.parents = e₁.parents ∧ e₂.sections = e₁.sections)
    (h : catalog₁.inherit (Endpoint.body c) [] e.id none = .ok body) :
    catalog₂.inherit (Endpoint.body c) [] e.id none = .ok body := by
  rw [← h]
  -- the endpoint itself is the same in both; of what is above it, parents and entries are enough
  refine Catalog.inherit_congr fun a ha => ?_
  rcases reflTransGen_iff_eq_or_transGen.mp ha with rfl | ancestor
  · rw [held₁, held₂]
  · have grounded : catalog₁.Grounded e.id := (Catalog.clear_of_isOk ⟨body, h⟩).1
    obtain ⟨e₁, he₁⟩ := Option.isSome_iff_exists.mp (grounded.reaches ha).isSome
    obtain ⟨e₂, he₂, parents, sections⟩ := ancestors a ancestor e₁ he₁
    rw [he₁, he₂, Option.map_some, Option.map_some, parents, Endpoint.body_congr sections]

/-- Two resolutions give equal records for an endpoint if both catalogs hold it, both lists of items
give it the same owner, both directories give its tenant the same settings, and the second catalog
holds its ancestors with the same parents and the same entries. -/
theorem record_eq_of_agree {r₁ r₂ : Resolution} {record₁ record₂ : ResolvedEndpoint}
    (ok₁ : resolve c catalog₁ items₁ tenants₁ = .ok r₁)
    (ok₂ : resolve c catalog₂ items₂ tenants₂ = .ok r₂)
    (mem₁ : record₁ ∈ r₁.records) (mem₂ : record₂ ∈ r₂.records)
    (id₁ : record₁.id = e.id) (id₂ : record₂.id = e.id)
    (held₁ : catalog₁.get? e.id = some e) (held₂ : catalog₂.get? e.id = some e)
    (owned₁ : ⟨e.id, o⟩ ∈ items₁) (owned₂ : ⟨e.id, o⟩ ∈ items₂)
    (settings : tenants₁.settings e.tenantId = tenants₂.settings e.tenantId)
    (ancestors : ∀ a, catalog₁.Ancestor e.id a → ∀ e₁, catalog₁.get? a = some e₁ →
      ∃ e₂, catalog₂.get? a = some e₂ ∧ e₂.parents = e₁.parents ∧ e₂.sections = e₁.sections) :
    record₁ = record₂ := by
  obtain ⟨body₁, hbody₁, hrecord₁⟩ :=
    record_eq ok₁ mem₁ (id₁.symm ▸ held₁) (id₁.symm ▸ owned₁)
  obtain ⟨body₂, hbody₂, hrecord₂⟩ :=
    record_eq ok₂ mem₂ (id₂.symm ▸ held₂) (id₂.symm ▸ owned₂)
  rw [id₁] at hbody₁
  rw [id₂] at hbody₂
  have same := inherit_eq_of_agree held₁ held₂ ancestors hbody₁
  obtain rfl : body₁ = body₂ := Except.ok.inj (same.symm.trans hbody₂)
  rw [hrecord₁, hrecord₂, settings]

def deskSet : Endpoint where
  id := "desk"
  name := "desk"
  tenantId := "t"
  parents := ["phone"]

def smallOffice : Catalog where
  endpoints := [deskSet,
    { id := "phone", name := "phone", tenantId := "t", isTemplate := true,
      sections := { endpoint := [⟨"callerid", "front"⟩] } }]
  nodup_ids := by decide

/-- The same phone, which now inherits the same entries from a phone of another tenant. -/
def largeOffice : Catalog where
  endpoints := [
    { id := "phone", name := "old", label := "in use", tenantId := "u", transport := some "udp",
      sections := { endpoint := [⟨"callerid", "front"⟩] } },
    { id := "lobby", name := "lobby", tenantId := "u", parents := ["desk"] },
    deskSet]
  nodup_ids := by decide

theorem deskSet_record : ∃ r₁ r₂ record,
    resolve .standard smallOffice [⟨"desk", .trunk {}⟩] ∅ = .ok r₁ ∧
    resolve .standard largeOffice
      [⟨"lobby", .trunk {}⟩, ⟨"phone", .trunk { context := some "in" }⟩, ⟨"desk", .trunk {}⟩]
      (.ofList [("u", { startAnnouncement := some "beep" })]) = .ok r₂ ∧
    record ∈ r₁.records ∧ record ∈ r₂.records ∧ record.id = "desk" := by
  obtain ⟨r₁, ok₁, first⟩ : ∃ r, resolve .standard smallOffice [⟨"desk", .trunk {}⟩] ∅ = .ok r ∧
      ∃ record ∈ r.records, record.id = "desk" := ⟨_, rfl, by decide⟩
  obtain ⟨r₂, ok₂, second⟩ : ∃ r, resolve .standard largeOffice
      [⟨"lobby", .trunk {}⟩, ⟨"phone", .trunk { context := some "in" }⟩, ⟨"desk", .trunk {}⟩]
      (.ofList [("u", { startAnnouncement := some "beep" })]) = .ok r ∧
      ∃ record ∈ r.records, record.id = "desk" := ⟨_, rfl, by decide⟩
  obtain ⟨record₁, mem₁, id₁⟩ := first
  obtain ⟨record₂, mem₂, id₂⟩ := second
  have same : record₁ = record₂ := by
    refine record_eq_of_agree (e := deskSet) ok₁ ok₂ mem₁ mem₂ id₁ id₂ rfl rfl
      List.mem_cons_self (by decide) (by decide) ?_
    intro a ha e₁ he₁
    have reached : a = "desk" ∨ a = "phone" := by
      have ha : smallOffice.Reaches "desk" a := ha.to_reflTransGen
      refine ha.mem_of_closed (s := fun a => a = "desk" ∨ a = "phone") (.inl rfl) ?_
      rintro _ p (rfl | rfl) hp
      · exact .inr (List.mem_singleton.mp (hp.mem rfl))
      · cases hp.mem rfl
    rcases reached with rfl | rfl <;> cases he₁ <;> exact ⟨_, rfl, rfl, rfl⟩
  exact ⟨r₁, r₂, record₁, ok₁, ok₂, mem₁, same ▸ mem₂, id₁⟩

end PbxTemplates
