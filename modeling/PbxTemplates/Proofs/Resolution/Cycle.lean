import PbxTemplates.Proofs.Resolution.Acceptance
import PbxTemplates.Proofs.Resolution.Failure

/-!
# Cycles

A resolution that reports a cycle reports one that is there, from an id back to the same id with no
detour. Where nothing else is wrong with what the items reach, a cycle is also reported
(`resolve_reports_cycles`).
-/

namespace PbxTemplates
open Relation

variable {c : Canonicalizer} {catalog : Catalog} {items : List Item} {tenants : TenantDirectory}
  {owners : OwnerTable} {chain : List String}

theorem isCycle_of_resolve
    (h : resolve c catalog items tenants = .error (.inheritanceCycle chain)) :
    catalog.IsCycle chain ∧ ∃ a, chain.head? = some a ∧ catalog.ReachedBy items a := by
  cases accepted : OwnerTable.ofItems catalog items with
  | error err =>
    rw [resolve, accepted] at h
    obtain rfl : err = .inheritanceCycle chain := Except.error.inj h
    rcases OwnerTable.ofItems_error_cases accepted with ⟨_, _, other⟩ | ⟨_, _, _, other⟩
    · cases other
    · cases other
  | ok owners =>
    by_cases sound : ∀ item ∈ items, ¬ catalog.Broken item.endpoint
    · obtain ⟨_, _, other⟩ := (resolve_eq_error_iff accepted sound).mp h
      cases other
    · push Not at sound
      obtain ⟨item, hitem, broken⟩ := sound
      obtain ⟨err, fails, i, hi, fault⟩ := exists_fault accepted hitem broken
      rw [h] at fails
      obtain rfl := Except.error.inj fails
      cases fault with
      | cycle reached first cycle => exact ⟨cycle, _, first, i, hi, reached⟩

theorem exists_cycle (accepted : OwnerTable.ofItems catalog items = .ok owners)
    (complete : ∀ a, catalog.ReachedBy items a → (catalog.get? a).isSome)
    (cyclic : ∃ a, catalog.ReachedBy items a ∧ catalog.Ancestor a a) :
    ∃ chain, resolve c catalog items tenants = .error (.inheritanceCycle chain) := by
  obtain ⟨a, ⟨item, hitem, reached⟩, cycle⟩ := cyclic
  obtain ⟨err, fails, i, hi, fault⟩ := exists_fault accepted hitem ⟨a, reached, .inr cycle⟩
  -- of the defects that an error can name, the catalog leaves only a cycle
  cases fault with
  | unknown absent =>
    have held := complete i.endpoint ⟨i, hi, Catalog.Reaches.refl _ _⟩
    rw [absent] at held
    cases held
  | missing reached parent absent =>
    have held := complete _ ⟨i, hi, ReflTransGen.tail reached parent⟩
    rw [absent] at held
    cases held
  | cycle _ _ _ => exact ⟨_, fails⟩

/-- A reported cycle leads from an id that the items reach from parent to parent back to this id,
through endpoints of the catalog and through no other id twice. If the items are accepted and the
catalog holds all that they reach, a cycle among this is reported. -/
theorem resolve_reports_cycles (c : Canonicalizer) (catalog : Catalog) (items : List Item)
    (tenants : TenantDirectory) :
    (∀ chain, resolve c catalog items tenants = .error (.inheritanceCycle chain) →
      catalog.IsCycle chain ∧ ∃ a, chain.head? = some a ∧ catalog.ReachedBy items a) ∧
    ((∃ owners, OwnerTable.ofItems catalog items = .ok owners) →
      (∀ a, catalog.ReachedBy items a → (catalog.get? a).isSome) →
      (∃ a, catalog.ReachedBy items a ∧ catalog.Ancestor a a) →
      ∃ chain, resolve c catalog items tenants = .error (.inheritanceCycle chain)) := by
  refine ⟨fun chain h => isCycle_of_resolve h, ?_⟩
  rintro ⟨owners, accepted⟩ complete cyclic
  exact exists_cycle accepted complete cyclic

theorem tangled_cycle :
    let items : List Item := [⟨"desk", .trunk {}⟩, ⟨"lobby", .trunk {}⟩]
    ∃ chain, resolve .standard tangled items ∅ = .error (.inheritanceCycle chain) ∧
      tangled.IsCycle chain ∧ ∃ a, chain.head? = some a ∧ tangled.ReachedBy items a := by
  intro items
  obtain ⟨real, reported⟩ := resolve_reports_cycles .standard tangled items ∅
  have closed : ∀ e ∈ tangled.endpoints, ∀ p ∈ e.parents, (tangled.get? p).isSome := by decide
  have complete : ∀ a, tangled.ReachedBy items a → (tangled.get? a).isSome := by
    rintro a ⟨i, hi, reached⟩
    have held : ∀ i ∈ items, (tangled.get? i.endpoint).isSome := by decide
    refine reached.mem_of_closed (s := fun a => (tangled.get? a).isSome) (held i hi) ?_
    rintro x p - ⟨e, he, hp⟩
    exact closed e (List.mem_of_find?_eq_some he) p hp
  have cyclic : ∃ a, tangled.ReachedBy items a ∧ tangled.Ancestor a a := by
    have into : tangled.Parent "lobby" "loop" := ⟨_, rfl, by decide⟩
    have there : tangled.Parent "loop" "knot" := ⟨_, rfl, by decide⟩
    have back : tangled.Parent "knot" "loop" := ⟨_, rfl, by decide⟩
    exact ⟨"loop", ⟨⟨"lobby", .trunk {}⟩, by decide, .single into⟩, .tail (.single there) back⟩
  obtain ⟨chain, h⟩ := reported ⟨_, rfl⟩ complete cyclic
  exact ⟨chain, h, real chain h⟩

end PbxTemplates
