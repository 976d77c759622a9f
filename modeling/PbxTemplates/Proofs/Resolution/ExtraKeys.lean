import PbxTemplates.Proofs.Endpoint.Agreement
import PbxTemplates.Proofs.Resolution.FlatMerge
import PbxTemplates.Proofs.Resolution.WithoutWalk

/-!
# Keys that may repeat in addition

A request may let more keys repeat than the standard ones. Such keys are then kept where otherwise
the last value would stand, at every level of inheritance, but nothing else changes: the resolution
fails with the same error or has the same records outside these keys (`resolve_allowing`). The
caller id is apart, as another entry is made from its value.
-/

namespace PbxTemplates

variable {c : Canonicalizer} {catalog : Catalog} {items : List Item} {tenants : TenantDirectory}
  {owners : OwnerTable} {keys : List String}

/-- The records are the same but for entries of some keys, and the same sections are populated. -/
structure ResolvedEndpoint.AgreesOutside (keys : List String) (x y : ResolvedEndpoint) : Prop where
  id : x.id = y.id
  name : x.name = y.name
  label : x.label = y.label
  asteriskId : x.asteriskId = y.asteriskId
  tenantId : x.tenantId = y.tenantId
  sections : x.sections.AgreesOutside keys y.sections

/-! ### Bodies -/

/-- The body is the canonical form of the raw entries also where the recursion fails, as there are
neither. -/
theorem Catalog.inheritD_body_get (c : Canonicalizer) (catalog : Catalog) (id : String)
    (kind : SectionKind) : (catalog.inheritD (Endpoint.body c) {} id).get kind
      = c.canonicalize (catalog.rawEntries kind id) := by
  have merge := inherit_body_get c catalog kind [] id none
  have late {α β : Type} (x : Except ResolutionError α) (k : α → β) (a : α) :
      k (x.toOption.getD a) = (x.map k).toOption.getD (k a) := by cases x <;> rfl
  have empty : ({} : Sections).get kind = c.canonicalize [] := by cases kind <;> rfl
  calc (catalog.inheritD (Endpoint.body c) {} id).get kind
      = ((catalog.inherit (Endpoint.body c) [] id none).map (·.get kind)).toOption.getD
          (({} : Sections).get kind) := late _ (fun body : Sections => body.get kind) {}
    _ = ((catalog.inherit (Endpoint.rawEntries kind) [] id none).map
          c.canonicalize).toOption.getD (c.canonicalize []) := by rw [merge, empty]
    _ = c.canonicalize (catalog.rawEntries kind id) := (late _ c.canonicalize []).symm

theorem Catalog.inheritD_body_agreesOutside (c : Canonicalizer) (catalog : Catalog) (id : String)
    (keys : List String) : (catalog.inheritD (Endpoint.body c) {} id).AgreesOutside keys
      (catalog.inheritD (Endpoint.body (c.allowing keys)) {} id) := by
  intro kind
  rw [inheritD_body_get, inheritD_body_get]
  exact (Section.AgreesOutside.refl keys _).canonicalize c

/-- The rule has no part in whether the bodies can be computed, nor in the error. -/
theorem itemBodies_bind_const {β : Type} (c c' : Canonicalizer) (catalog : Catalog)
    (items : List Item) (x : Except ResolutionError β) :
    (itemBodies c catalog items).bind (fun _ => x)
      = (itemBodies c' catalog items).bind fun _ => x := by
  have forget (c : Canonicalizer) : (itemBodies c catalog items).map (List.map fun _ => ())
      = items.mapM fun i => catalog.inherit (fun _ _ => ()) [] i.endpoint none := by
    rw [itemBodies, mapM_map_ok]
    exact mapM_congr fun i _ => Catalog.inherit_map (fun _ => ()) (fun _ _ => rfl) _ _ _
  have late (c : Canonicalizer) : (itemBodies c catalog items).bind (fun _ => x)
      = ((itemBodies c catalog items).map (List.map fun _ => ())).bind fun _ => x := by
    cases itemBodies c catalog items <;> rfl
  rw [late c, late c', forget c, forget c']

/-! ### Records -/

theorem Endpoint.built_recordIn_agreesOutside (e : Endpoint) (callerId : "callerid" ∉ keys) :
    ResolvedEndpoint.AgreesOutside keys ((e.built c catalog owners).recordIn c tenants)
      ((e.built (c.allowing keys) catalog owners).recordIn (c.allowing keys) tenants) where
  id := rfl
  name := rfl
  label := rfl
  asteriskId := rfl
  tenantId := rfl
  sections :=
    Finish.AgreesOutside.sections
      ⟨rfl, rfl, rfl, Catalog.inheritD_body_agreesOutside c catalog e.id keys⟩ callerId

namespace Resolution

/-- The results of two resolutions: the same error, or the same counts and records that agree one by
one. -/
inductive AgreeOutside (keys : List String) :
    Except ResolutionError Resolution → Except ResolutionError Resolution → Prop
  | error (err : ResolutionError) : AgreeOutside keys (.error err) (.error err)
  | ok {r r' : Resolution} (stats : r.stats = r'.stats)
      (records : List.Forall₂ (ResolvedEndpoint.AgreesOutside keys) r.records r'.records) :
      AgreeOutside keys (.ok r) (.ok r')

theorem complete_plainBuilt (c : Canonicalizer) (catalog : Catalog) (owners : OwnerTable)
    (items : List Item) (tenants : TenantDirectory) :
    let order := catalog.buildOrder (items.map (·.endpoint))
    let emitted := order.filter fun e => !e.isTemplate
    complete c tenants (plainBuilt c catalog owners items)
      = ⟨emitted.map fun e => (e.built c catalog owners).recordIn c tenants,
          ⟨order.length, order.countP (·.isTemplate), emitted.length⟩⟩ := by
  simp only [complete, plainBuilt, List.filter_map, List.map_map, List.length_map, List.countP_map]
  rfl

theorem ofBuilt_agreeOutside (callerId : "callerid" ∉ keys) :
    AgreeOutside keys (ofBuilt c tenants (plainBuilt c catalog owners items))
      (ofBuilt (c.allowing keys) tenants (plainBuilt (c.allowing keys) catalog owners items)) := by
  let order := catalog.buildOrder (items.map (·.endpoint))
  -- who has an owner does not depend on the rule
  have orphan (c : Canonicalizer) : (plainBuilt c catalog owners items).find? (·.isOrphan)
      = (order.find? fun e => !e.isTemplate && (owners.get? e.id).isNone).map
        (Endpoint.built c catalog owners) := List.find?_map ..
  cases found : order.find? fun e => !e.isTemplate && (owners.get? e.id).isNone with
  | some e =>
    have first (c : Canonicalizer) := (orphan c).trans (congrArg _ found)
    rw [ofBuilt_error (first c), ofBuilt_error (first (c.allowing keys))]
    exact .error _
  | none =>
    have none (c : Canonicalizer) := (orphan c).trans (congrArg _ found)
    rw [ofBuilt_ok (none c), ofBuilt_ok (none (c.allowing keys)), complete_plainBuilt,
      complete_plainBuilt]
    refine .ok rfl (List.forall₂_map_left_iff.mpr (List.forall₂_map_right_iff.mpr ?_))
    exact List.forall₂_same.mpr fun e _ => e.built_recordIn_agreesOutside callerId

end Resolution

/-- If more keys may repeat and the caller id is not one of them, a resolution fails with the same
error as before, or it has the same counts and record by record the same sections, except for the
entries with these keys. -/
theorem resolve_allowing (c : Canonicalizer) (catalog : Catalog) (items : List Item)
    (tenants : TenantDirectory) (keys : List String) (callerId : "callerid" ∉ keys) :
    Resolution.AgreeOutside keys (resolve c catalog items tenants)
      (resolve (c.allowing keys) catalog items tenants) := by
  rw [resolve_eq_plain, resolve_eq_plain]
  cases OwnerTable.ofItems catalog items with
  | error err => exact .error err
  | ok owners =>
    show Resolution.AgreeOutside keys ((itemBodies c catalog items).bind _)
      ((itemBodies (c.allowing keys) catalog items).bind _)
    rw [itemBodies_bind_const (c.allowing keys) c]
    cases itemBodies c catalog items with
    | error err => exact .error err
    | ok bodies => exact Resolution.ofBuilt_agreeOutside callerId

/-- A phone and its template that name different codecs. -/
def codecs : Catalog where
  endpoints := [
    { id := "base", name := "base", tenantId := "t", isTemplate := true,
      sections := { endpoint := [⟨"allow", "ulaw"⟩, ⟨"language", "en"⟩] } },
    { id := "desk", name := "desk", tenantId := "t", parents := ["base"],
      sections := { endpoint := [⟨"allow", "alaw"⟩] } }]
  nodup_ids := by decide

theorem resolve_codecs :
    let items : List Item := [⟨"desk", .trunk {}⟩]
    let more : Canonicalizer := Canonicalizer.standard.allowing ["allow"]
    "callerid" ∉ ["allow"] ∧
      (∃ r, resolve .standard codecs items ∅ = .ok r ∧
        r.records.map (·.sections.endpoint.values "allow") = [["alaw"]]) ∧
      (∃ r, resolve more codecs items ∅ = .ok r ∧
        r.records.map (·.sections.endpoint.values "allow") = [["ulaw", "alaw"]]) ∧
      Resolution.AgreeOutside ["allow"] (resolve .standard codecs items ∅)
        (resolve more codecs items ∅) := by
  intro items more
  have callerId : "callerid" ∉ ["allow"] := by decide
  exact ⟨callerId, ⟨_, rfl, by decide⟩, ⟨_, rfl, by decide⟩,
    resolve_allowing .standard codecs items ∅ ["allow"] callerId⟩

end PbxTemplates
