import PbxTemplates.Proofs.Resolution.Emission
import PbxTemplates.Proofs.Resolution.OwnerTable
import PbxTemplates.Proofs.Resolution.WalkState

/-!
# The walk agrees with plain recursion

The walk does not enter an endpoint that it has built. This hides no fault: what has been built is
grounded, and its ancestors have been built as well, so none of them is on the path. Where a visit
fails, plain recursion along the same path fails with the same error (`visit_error`).

Main statement: `resolve_agrees_with_recursion`, for whole resolutions.
-/

namespace PbxTemplates

universe u

namespace Graph

variable {α : Type u} {f : Endpoint → List α → α} {g : Graph} {w w' : Walk} {id : String}
  {ids path : List String} {child : Option String} {e : Endpoint} {i fuel : Nat}
  {err : ResolutionError}

/-! ### Visits -/

/-- Plain recursion may go through an endpoint that has been built. -/
theorem Coherent.clear (h : g.Coherent w) (hm : w.marks.get? id = some (.built i)) :
    g.catalog.Grounded id ∧ g.catalog.Clear w.path id := by
  obtain ⟨b, hb, rfl⟩ := (h.built_iff id i).mp hm
  have hb : b ∈ w.built := List.mem_of_getElem? hb
  refine ⟨h.order.grounded hb, fun a ha hmem => ?_⟩
  obtain ⟨b', hb', hid⟩ := h.order.reaches_mem hb ha
  obtain ⟨j, hj⟩ := List.mem_iff_getElem?.mp hb'
  have built := (h.built_iff a j).mpr ⟨b', hj, hid⟩
  rw [(h.inProgress_iff a).mpr hmem] at built
  cases built

theorem visitAll_error {visit : String → Walk → Option (Outcome Nat)}
    (keeps : ∀ id ∈ ids, g.KeepsCoherent path id (visit id))
    (agrees : ∀ id ∈ ids, ∀ w, g.Coherent w → w.path = path → ∀ err w',
      visit id w = some (.error err, w') → g.catalog.inherit f path id child = .error err)
    (hw : g.Coherent w) (hpath : w.path = path)
    (h : visitAll visit ids w = some (.error err, w')) :
    (ids.mapM fun id => g.catalog.inherit f path id child) = .error err := by
  induction ids generalizing w w' with
  | nil => simp [visitAll] at h
  | cons id ids ih =>
    cases visitAll_step h with
    | first head => exact mapM_cons_of_error (agrees id List.mem_cons_self w hw hpath _ _ head)
    | later head tail =>
      -- the first id has been built, so plain recursion gets past it and fails where the rest fails
      obtain ⟨hp, hok⟩ := keeps id List.mem_cons_self w hw hpath _ _ head
      obtain ⟨hpath', hm⟩ := hok _ rfl
      have hclear := hp.coherent.clear hm
      obtain ⟨x, hx⟩ := Catalog.isOk_of_clear f hclear.1 (hpath' ▸ hclear.2) child
      have rest := ih (fun id hid => keeps id (List.mem_cons_of_mem _ hid))
        (fun id hid => agrees id (List.mem_cons_of_mem _ hid)) hp.coherent hpath' tail
      rw [mapM_cons_of_ok (g := fun id => g.catalog.inherit f path id child) hx, rest]
      rfl

/-- Where a visit fails, plain recursion along the same path fails with the same error. -/
theorem visit_error (hw : g.Coherent w) (hc : g.Calls w id child)
    (h : g.visit fuel id child w = some (.error err, w')) :
    g.catalog.inherit f w.path id child = .error err := by
  induction fuel generalizing id child w w' err with
  | zero => cases h
  | succ fuel ih =>
    cases visit_step h with
    -- the ids in progress are those on the path, so a mark and the path tell the same cycle
    | cycle mark => exact Catalog.inherit_of_mem ((hw.inProgress_iff id).mp mark)
    | missing mark none =>
      rw [Catalog.inherit_of_missing (hw.not_mem_path mark) none]
      cases child <;> rfl
    | @failed e err w' mark held parents =>
      have entered := hw.count.enter hc mark
      refine Catalog.inherit_error_of_parents (hw.not_mem_path mark) held ?_
      refine visitAll_error (fun p hp => keepsCoherent_parent held hp) ?_ entered rfl parents
      intro p hp w₁ hw₁ hpath err₁ w₂ hv
      have := ih hw₁ (.parent hpath held hp) hv
      rwa [hpath] at this

/-! ### Whole walks -/

theorem recursion_of_walk_error (h : (g.walk ids).1 = .error err) :
    (ids.mapM fun id => g.catalog.inherit f [] id none) = .error err := by
  have hwalk : visitAll (fun id => g.visit g.fuel id none) ids {}
      = some (.error err, (g.walk ids).2) := by
    rw [g.walk_eq ids, ← h]
  refine visitAll_error (fun id _ => keepsCoherent_item) ?_ g.coherent_start rfl hwalk
  intro id _ w hw hpath err w' hv
  have := visit_error (f := f) hw (.item hpath) hv
  rwa [hpath] at this

theorem walk_isOk_iff : (∃ is, (g.walk ids).1 = .ok is) ↔ ∀ id ∈ ids, g.catalog.Grounded id := by
  constructor
  · rintro ⟨is, h⟩ id hid
    obtain ⟨hp, hok⟩ := g.walk_progress ids
    obtain ⟨_, marks⟩ := hok is h
    obtain ⟨i, _, hm⟩ := exists_of_forall₂ marks hid
    exact (hp.coherent.clear hm).1
  · intro h
    cases hwalk : (g.walk ids).1 with
    | ok is => exact ⟨is, rfl⟩
    | error err =>
      obtain ⟨bodies, ok⟩ :=
        (Catalog.inherit_all_isOk_iff (f := Endpoint.body g.canonicalizer)).mpr h
      rw [recursion_of_walk_error hwalk] at ok
      cases ok

end Graph

/-! ### Resolutions -/

section
variable {c : Canonicalizer} {catalog : Catalog} {items : List Item} {tenants : TenantDirectory}
  {owners : OwnerTable} {err : ResolutionError}

/-- Plain recursion for the endpoint of each item in order; the first failure ends it. -/
def itemBodies (c : Canonicalizer) (catalog : Catalog) (items : List Item) :
    Except ResolutionError (List Sections) :=
  items.mapM fun i => catalog.inherit (Endpoint.body c) [] i.endpoint none

def itemWalk (c : Canonicalizer) (catalog : Catalog) (owners : OwnerTable) (items : List Item) :
    Outcome (List Nat) :=
  Graph.walk ⟨c, catalog, owners⟩ (items.map (·.endpoint))

theorem resolve_eq (h : OwnerTable.ofItems catalog items = .ok owners) :
    resolve c catalog items tenants = (itemWalk c catalog owners items).1.bind fun _ =>
      Resolution.ofBuilt c tenants (itemWalk c catalog owners items).2.built := by
  rw [resolve, h, itemWalk]
  dsimp only
  cases Graph.walk ⟨c, catalog, owners⟩ (items.map (·.endpoint)) with
  | mk r w => cases r <;> rfl

/-- What there is to a resolution that succeeds. -/
theorem resolve_eq_ok_iff {r : Resolution} : resolve c catalog items tenants = .ok r ↔
    ∃ owners is, OwnerTable.ofItems catalog items = .ok owners ∧
      (itemWalk c catalog owners items).1 = .ok is ∧
      (∀ b ∈ (itemWalk c catalog owners items).2.built, b.isOrphan = false) ∧
      Resolution.complete c tenants (itemWalk c catalog owners items).2.built = r := by
  cases h : OwnerTable.ofItems catalog items with
  | error err => simp [resolve, h]
  | ok owners =>
    rw [resolve_eq h]
    cases hw : (itemWalk c catalog owners items).1 with
    | error err => simp [hw, Except.bind]
    | ok is => simp [hw, Except.bind, Resolution.ofBuilt_eq_ok_iff]

theorem buildOrder_itemWalk :
    Graph.BuildOrder ⟨c, catalog, owners⟩ (itemWalk c catalog owners items).2.built :=
  (Graph.walk_progress _ _).1.coherent.order

theorem itemBodies_error (h : (itemWalk c catalog owners items).1 = .error err) :
    itemBodies c catalog items = .error err := by
  have fails := Graph.recursion_of_walk_error (f := Endpoint.body c) h
  rw [List.mapM_map] at fails
  exact fails

theorem itemBodies_ok {is : List Nat} (h : (itemWalk c catalog owners items).1 = .ok is) :
    ∃ bodies, itemBodies c catalog items = .ok bodies := by
  have ok := (Catalog.inherit_all_isOk_iff (f := Endpoint.body c)).mpr
    (Graph.walk_isOk_iff.mp ⟨is, h⟩)
  rw [List.mapM_map] at ok
  exact ok

/-- Where a record comes from: the endpoint of its id, an item that names it, and the body that
plain recursion computes for it. -/
theorem mem_complete {built : List BuiltEndpoint} {record : ResolvedEndpoint}
    (h : OwnerTable.ofItems catalog items = .ok owners)
    (order : Graph.BuildOrder ⟨c, catalog, owners⟩ built)
    (owned : ∀ b ∈ built, b.isOrphan = false)
    (hr : record ∈ (Resolution.complete c tenants built).records) :
    ∃ e owner body, catalog.get? record.id = some e ∧ ⟨record.id, owner⟩ ∈ items ∧
      catalog.inherit (Endpoint.body c) [] record.id none = .ok body ∧
      record = ⟨e.id, e.name, e.label, e.asteriskId, e.tenantId, Finish.sections
        ⟨c, e, body, owner.injection (tenants.settings e.tenantId)⟩⟩ := by
  obtain ⟨b, hb, rfl⟩ := List.mem_map.mp hr
  obtain ⟨hb, concrete⟩ := List.mem_filter.mp hb
  obtain ⟨owner, ho⟩ : ∃ owner, b.owner = some owner := by
    refine Option.ne_none_iff_exists'.mp (BuiltEndpoint.isOrphan_eq_false_iff.mp (owned b hb) ?_)
    simpa using concrete
  have item : ⟨b.endpoint.id, owner⟩ ∈ items :=
    (OwnerTable.get?_eq_some_iff h _ _).mp ((order.owner_eq hb).symm.trans ho)
  refine ⟨b.endpoint, owner, b.body, order.held hb, item, order.inherit_body hb, ?_⟩
  rw [BuiltEndpoint.recordIn, BuiltEndpoint.record, BuiltEndpoint.injection, ho, Option.elim_some]

/-- A record is finished from the body at its id and from what its one owner injects. -/
theorem exists_finish {r : Resolution} {record : ResolvedEndpoint}
    (h : resolve c catalog items tenants = .ok r) (hr : record ∈ r.records) :
    ∃ e owner body, catalog.get? record.id = some e ∧ record.tenantId = e.tenantId ∧
      (∀ o, ⟨record.id, o⟩ ∈ items ↔ o = owner) ∧
      catalog.inherit (Endpoint.body c) [] record.id none = .ok body ∧
      record.sections
        = Finish.sections ⟨c, e, body, owner.injection (tenants.settings record.tenantId)⟩ := by
  obtain ⟨owners, _, ho, _, howned, rfl⟩ := resolve_eq_ok_iff.mp h
  obtain ⟨e, owner, body, held, item, hbody, hrecord⟩ :=
    mem_complete ho buildOrder_itemWalk howned hr
  have tenant : record.tenantId = e.tenantId := by rw [hrecord]
  have sole : ∀ o, ⟨record.id, o⟩ ∈ items ↔ o = owner := by
    intro o
    rw [← OwnerTable.get?_eq_some_iff ho, (OwnerTable.get?_eq_some_iff ho _ _).mpr item,
      Option.some_inj, eq_comm]
  refine ⟨e, owner, body, held, tenant, sole, hbody, ?_⟩
  rw [tenant, hrecord]

/-- A resolution agrees with plain recursion. If the recursion fails for an item, the resolution
fails with the error of the first such item. Otherwise only an owner can be missing. Each record has
the names and the tenant of its endpoint, and its sections are finished from the body that the
recursion computes and from what the owner in its item injects under the settings of that tenant. -/
theorem resolve_agrees_with_recursion (c : Canonicalizer) (catalog : Catalog) (items : List Item)
    (tenants : TenantDirectory)
    (accepted : ∃ owners, OwnerTable.ofItems catalog items = .ok owners) :
    (∀ err, itemBodies c catalog items = .error err →
      resolve c catalog items tenants = .error err) ∧
    ∀ bodies, itemBodies c catalog items = .ok bodies →
      (∃ id, resolve c catalog items tenants = .error (.missingOwner id)) ∨
      ∃ r, resolve c catalog items tenants = .ok r ∧ ∀ record ∈ r.records, ∃ e owner body,
        catalog.get? record.id = some e ∧ ⟨record.id, owner⟩ ∈ items ∧
        catalog.inherit (Endpoint.body c) [] record.id none = .ok body ∧
        record = ⟨e.id, e.name, e.label, e.asteriskId, e.tenantId, Finish.sections
          ⟨c, e, body, owner.injection ((tenants.get? e.tenantId).getD {})⟩⟩ := by
  obtain ⟨owners, h⟩ := accepted
  rw [resolve_eq h]
  cases hw : (itemWalk c catalog owners items).1 with
  | error err =>
    have fails := itemBodies_error hw
    constructor
    · intro err' h'
      have same : err = err' := Except.error.inj (fails.symm.trans h')
      rw [same]
      rfl
    · intro bodies h'
      cases fails.symm.trans h'
  | ok is =>
    -- the walk is through, so all that can still fail is the search for an owner
    obtain ⟨bodies, ok⟩ := itemBodies_ok hw
    constructor
    · intro err h'
      cases ok.symm.trans h'
    · intro _ _
      cases howned : (itemWalk c catalog owners items).2.built.find? (·.isOrphan) with
      | some b => exact .inl ⟨b.endpoint.id, Resolution.ofBuilt_error howned⟩
      | none =>
        refine .inr ⟨_, Resolution.ofBuilt_ok howned, fun record => ?_⟩
        exact mem_complete h buildOrder_itemWalk (by simpa using howned)

/-- Two phones that share a template. The second one also inherits from a template in a loop. -/
def tangled : Catalog where
  endpoints := [
    { id := "desk", name := "desk", tenantId := "t", parents := ["phone", "phone"] },
    { id := "phone", name := "phone", tenantId := "t", isTemplate := true },
    { id := "lobby", name := "lobby", tenantId := "t", parents := ["phone", "loop"] },
    { id := "loop", name := "loop", tenantId := "t", isTemplate := true, parents := ["knot"] },
    { id := "knot", name := "knot", tenantId := "t", isTemplate := true, parents := ["loop"] }]
  nodup_ids := by decide

theorem inherit_tangled_phone {path : List String} {child : Option String} (h : "phone" ∉ path) :
    tangled.inherit (Endpoint.body .standard) path "phone" child = .ok {} :=
  (Catalog.inherit_of_get h rfl).trans rfl

theorem inherit_tangled_desk :
    tangled.inherit (Endpoint.body .standard) [] "desk" none = .ok {} := by
  rw [Catalog.inherit_of_get (by decide) rfl]
  simp only [List.mapM_cons, List.mapM_nil, List.nil_append, List.mem_singleton, String.reduceEq,
    not_false_eq_true, inherit_tangled_phone]
  rfl

theorem inherit_tangled_lobby : tangled.inherit (Endpoint.body .standard) [] "lobby" none
    = .error (.inheritanceCycle ["loop", "knot", "loop"]) := by
  have knot : tangled.inherit (Endpoint.body .standard) ["lobby", "loop"] "knot" (some "loop")
      = .error (.inheritanceCycle ["loop", "knot", "loop"]) :=
    Catalog.inherit_error_of_parents (by decide) rfl
      (mapM_cons_of_error (Catalog.inherit_of_mem (by decide)))
  have loop : tangled.inherit (Endpoint.body .standard) ["lobby"] "loop" (some "lobby")
      = .error (.inheritanceCycle ["loop", "knot", "loop"]) :=
    Catalog.inherit_error_of_parents (by decide) rfl (mapM_cons_of_error knot)
  have phone : tangled.inherit (Endpoint.body .standard) ["lobby"] "phone" (some "lobby")
      = .ok {} := inherit_tangled_phone (by decide)
  refine Catalog.inherit_error_of_parents (by decide) rfl ?_
  simp [phone, loop, bind, Except.bind]

def beepingTenants : TenantDirectory := .ofList [("t", { startAnnouncement := some "beep" })]

def deskOnTrunk : Item := ⟨"desk", .trunk { context := some "from-extern" }⟩

/-- The first phone alone has a record. With the second one the resolution fails in the loop. -/
theorem resolve_tangled :
    (∃ owners, OwnerTable.ofItems tangled [deskOnTrunk] = .ok owners) ∧
    (∃ r, resolve .standard tangled [deskOnTrunk] beepingTenants = .ok r ∧
      ∃ record ∈ r.records, record = ⟨"desk", "desk", "", none, "t", { endpoint := [
        ⟨"context", "from-extern"⟩, ⟨"set_var", "__WAZO_TENANT_UUID=t"⟩,
        ⟨"set_var", "WAZO_CHANNEL_DIRECTION=to-wazo"⟩,
        ⟨"set_var", "WAZO_MIXMONITOR_OPTIONS=p(beep)"⟩, ⟨"type", "endpoint"⟩] }⟩) ∧
    (∃ owners, OwnerTable.ofItems tangled [deskOnTrunk, ⟨"lobby", .trunk {}⟩] = .ok owners) ∧
    resolve .standard tangled [deskOnTrunk, ⟨"lobby", .trunk {}⟩] beepingTenants
      = .error (.inheritanceCycle ["loop", "knot", "loop"]) := by
  have alone : ∃ owners, OwnerTable.ofItems tangled [deskOnTrunk] = .ok owners :=
    OwnerTable.ofItems_isOk_iff.mpr (by decide)
  have both : ∃ owners, OwnerTable.ofItems tangled [deskOnTrunk, ⟨"lobby", .trunk {}⟩]
      = .ok owners := OwnerTable.ofItems_isOk_iff.mpr (by decide)
  have bodies : itemBodies .standard tangled [deskOnTrunk] = .ok [{}] := by
    simp [itemBodies, deskOnTrunk, inherit_tangled_desk, bind, Except.bind, pure, Except.pure]
  have fails : itemBodies .standard tangled [deskOnTrunk, ⟨"lobby", .trunk {}⟩]
      = .error (.inheritanceCycle ["loop", "knot", "loop"]) := by
    simp [itemBodies, deskOnTrunk, inherit_tangled_desk, inherit_tangled_lobby, bind, Except.bind]
  refine ⟨alone, ?_, both, (resolve_agrees_with_recursion _ _ _ _ both).1 _ fails⟩
  obtain ⟨r, ok, record, hr, id⟩ : ∃ r, resolve .standard tangled [deskOnTrunk] beepingTenants
      = .ok r ∧ ∃ record ∈ r.records, record.id = "desk" := ⟨_, rfl, by decide⟩
  rcases (resolve_agrees_with_recursion _ _ _ _ alone).2 _ bodies with ⟨_, orphan⟩ | ⟨_, ok', each⟩
  · cases ok.symm.trans orphan
  · -- what the theorem says of the record leaves one value for each of its parts
    obtain rfl := Except.ok.inj (ok.symm.trans ok')
    obtain ⟨e, owner, body, held, item, inherits, finished⟩ := each record hr
    rw [id] at held item inherits
    obtain rfl := Option.some.inj held
    obtain rfl : owner = deskOnTrunk.owner := congrArg Item.owner (List.mem_singleton.mp item)
    obtain rfl := Except.ok.inj (inherit_tangled_desk.symm.trans inherits)
    exact ⟨r, ok, record, hr, finished.trans (by decide)⟩

end

end PbxTemplates
