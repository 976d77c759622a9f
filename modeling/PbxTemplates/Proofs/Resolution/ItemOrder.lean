import PbxTemplates.Proofs.Resolution.Acceptance
import PbxTemplates.Proofs.Resolution.Failure
import PbxTemplates.Proofs.Resolution.WithoutWalk

/-!
# The order of the items

Items in another order make the walk meet the endpoints in another order, and it may build an
endpoint for an item that it otherwise builds as an ancestor. What is built is the same all the
same, up to order: the same endpoints, with the same owners and the same bodies. So a resolution
succeeds for every order or for none, and its records only change places (`resolve_perm`).
-/

namespace PbxTemplates

variable {c : Canonicalizer} {catalog : Catalog} {items items' : List Item}
  {tenants : TenantDirectory} {owners owners' : OwnerTable} {built built' : List BuiltEndpoint}

theorem Catalog.ReachedBy.perm {a : String} (p : items.Perm items')
    (h : catalog.ReachedBy items a) : catalog.ReachedBy items' a := by
  obtain ⟨i, hi, ha⟩ := h
  exact ⟨i, p.mem_iff.mp hi, ha⟩

theorem Acceptable.perm (h : Acceptable catalog items) (p : items.Perm items') :
    Acceptable catalog items' where
  nodup := (p.map _).nodup_iff.mp h.nodup
  concrete i hi := h.concrete i (p.mem_iff.mpr hi)
  closed a ha := h.closed a (ha.perm p.symm)
  acyclic a ha := h.acyclic a (ha.perm p.symm)
  owned a ha e held concrete := by
    obtain ⟨i, hi, same⟩ := h.owned a (ha.perm p.symm) e held concrete
    exact ⟨i, p.mem_iff.mp hi, same⟩

theorem OwnerTable.get?_eq_of_perm (h : ofItems catalog items = .ok owners)
    (h' : ofItems catalog items' = .ok owners') (p : items.Perm items') (id : String) :
    owners'.get? id = owners.get? id := by
  ext o
  rw [get?_eq_some_iff h', get?_eq_some_iff h, p.mem_iff]

theorem Catalog.buildOrder_perm {ids ids' : List String} (p : ids.Perm ids') :
    (catalog.buildOrder ids).Perm (catalog.buildOrder ids') := by
  refine (List.perm_ext_iff_of_nodup (nodup_eraseDups _) (nodup_eraseDups _)).mpr fun e => ?_
  rw [List.mem_eraseDups, List.mem_eraseDups]
  exact (p.flatMap_right _).mem_iff

theorem plainBuilt_perm (h : OwnerTable.ofItems catalog items = .ok owners)
    (h' : OwnerTable.ofItems catalog items' = .ok owners') (p : items.Perm items') :
    (plainBuilt c catalog owners items).Perm (plainBuilt c catalog owners' items') := by
  have same : Endpoint.built c catalog owners' = Endpoint.built c catalog owners := by
    funext e
    rw [Endpoint.built, OwnerTable.get?_eq_of_perm h h' p]
    rfl
  rw [plainBuilt, plainBuilt, same]
  exact (Catalog.buildOrder_perm (p.map _)).map _

theorem Resolution.complete_perm (p : built.Perm built') :
    (complete c tenants built).records.Perm (complete c tenants built').records ∧
      (complete c tenants built).stats = (complete c tenants built').stats := by
  have records : (complete c tenants built).records.Perm (complete c tenants built').records :=
    (p.filter _).map _
  refine ⟨records, ?_⟩
  ext
  · exact p.length_eq
  · exact p.countP_eq _
  · exact records.length_eq

/-- Items in another order are resolved exactly if they are resolved in the first one. The records
are the same, each as often as before, and the counts are equal. -/
theorem resolve_perm (p : items.Perm items') :
    ((∃ r, resolve c catalog items tenants = .ok r) ↔
      ∃ r', resolve c catalog items' tenants = .ok r') ∧
    ∀ r r', resolve c catalog items tenants = .ok r → resolve c catalog items' tenants = .ok r' →
      r.records.Perm r'.records ∧ r.stats = r'.stats := by
  refine ⟨⟨?_, ?_⟩, ?_⟩
  · rintro ⟨r, h⟩
    exact ((acceptable_of_resolve h).perm p).succeeds
  · rintro ⟨r', h'⟩
    exact ((acceptable_of_resolve h').perm p.symm).succeeds
  · intro r r' h h'
    obtain ⟨owners, accepted, rfl⟩ := resolve_ok_plain h
    obtain ⟨owners', accepted', rfl⟩ := resolve_ok_plain h'
    exact Resolution.complete_perm (plainBuilt_perm accepted accepted' p)

/-- The hall phone inherits from the spare one, which is built as its ancestor in the first order
and for its own item in the second. -/
theorem resolve_switchboard_perm :
    (trunkItems ["hall", "desk", "spare"]).Perm (trunkItems ["desk", "spare", "hall"]) ∧
    ∃ r r', resolve .standard switchboard (trunkItems ["hall", "desk", "spare"]) ∅ = .ok r ∧
      resolve .standard switchboard (trunkItems ["desk", "spare", "hall"]) ∅ = .ok r' ∧
      r.records.map (·.id) = ["spare", "hall", "desk"] ∧
      r'.records.map (·.id) = ["desk", "spare", "hall"] ∧
      r.records.Perm r'.records ∧ r.stats = r'.stats := by
  have p : (trunkItems ["hall", "desk", "spare"]).Perm (trunkItems ["desk", "spare", "hall"]) := by
    decide
  obtain ⟨r, ok, first⟩ : ∃ r, resolve .standard switchboard
      (trunkItems ["hall", "desk", "spare"]) ∅ = .ok r ∧
      r.records.map (·.id) = ["spare", "hall", "desk"] := ⟨_, rfl, rfl⟩
  obtain ⟨r', ok', second⟩ : ∃ r, resolve .standard switchboard
      (trunkItems ["desk", "spare", "hall"]) ∅ = .ok r ∧
      r.records.map (·.id) = ["desk", "spare", "hall"] := ⟨_, rfl, rfl⟩
  exact ⟨p, r, r', ok, ok', first, second, (resolve_perm p).2 r r' ok ok'⟩

end PbxTemplates
