import PbxTemplates.Resolution.Basic

/-!
# What a resolution emits

`emit_eq` says in one equation what becomes of a list of built endpoints: the first one that needs
an owner and has none is an error, otherwise the records are those of all endpoints but the
templates.
-/

namespace PbxTemplates

/-- The endpoint is no template and yet has no owner. -/
def BuiltEndpoint.isOrphan (b : BuiltEndpoint) : Bool := !b.endpoint.isTemplate && b.owner.isNone

theorem BuiltEndpoint.isOrphan_eq_false_iff {b : BuiltEndpoint} :
    b.isOrphan = false ↔ (b.endpoint.isTemplate = false → b.owner ≠ none) := by
  cases ht : b.endpoint.isTemplate <;> simp [isOrphan, ht, Option.isSome_iff_ne_none]

/-- The record of a built endpoint under the settings that the directory gives its tenant. -/
def BuiltEndpoint.recordIn (b : BuiltEndpoint) (c : Canonicalizer) (tenants : TenantDirectory) :
    ResolvedEndpoint :=
  b.record c (tenants.settings b.endpoint.tenantId)

namespace Resolution

variable {c : Canonicalizer} {tenants : TenantDirectory} {built : List BuiltEndpoint}

theorem emit_eq : emit c tenants built =
    match built.find? (·.isOrphan) with
    | some b => .error (.missingOwner b.endpoint.id)
    | none => .ok ((built.filter fun b => !b.endpoint.isTemplate).map (·.recordIn c tenants)) := by
  induction built with
  | nil => rfl
  | cons b built ih =>
    rw [emit, ih, List.find?_cons]
    cases ht : b.endpoint.isTemplate with
    | true => simp [BuiltEndpoint.isOrphan, ht]
    | false =>
      cases ho : b.owner with
      | none => simp [BuiltEndpoint.isOrphan, ht, ho]
      | some o =>
        cases built.find? (·.isOrphan) <;>
          simp [BuiltEndpoint.isOrphan, BuiltEndpoint.recordIn, ht, ho]

theorem ofBuilt_error {b : BuiltEndpoint} (h : built.find? (·.isOrphan) = some b) :
    ofBuilt c tenants built = .error (.missingOwner b.endpoint.id) := by
  rw [ofBuilt, emit_eq, h]

/-- The resolution of a list of built endpoints that have the owners they need. -/
def complete (c : Canonicalizer) (tenants : TenantDirectory) (built : List BuiltEndpoint) :
    Resolution :=
  let records := (built.filter fun b => !b.endpoint.isTemplate).map (·.recordIn c tenants)
  ⟨records, ⟨built.length, built.countP (·.endpoint.isTemplate), records.length⟩⟩

theorem ofBuilt_ok (h : built.find? (·.isOrphan) = none) :
    ofBuilt c tenants built = .ok (complete c tenants built) := by
  rw [ofBuilt, emit_eq, h]
  rfl

theorem ofBuilt_eq_ok_iff {r : Resolution} : ofBuilt c tenants built = .ok r ↔
    (∀ b ∈ built, b.isOrphan = false) ∧ complete c tenants built = r := by
  cases h : built.find? (·.isOrphan) with
  | some b =>
    have orphan : ¬ ∀ b ∈ built, b.isOrphan = false := by
      intro owned
      have := List.find?_some h
      simp [owned b (List.mem_of_find?_eq_some h)] at this
    simp [ofBuilt_error h, orphan]
  | none =>
    have owned : ∀ b ∈ built, b.isOrphan = false := by simpa using h
    rw [ofBuilt_ok h, Except.ok.injEq]
    exact (and_iff_right owned).symm

end Resolution

end PbxTemplates
