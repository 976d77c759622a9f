import PbxTemplates.Proofs.Catalog.Fault
import PbxTemplates.Proofs.Resolution.Lineage
import PbxTemplates.Proofs.Resolution.Refusal

/-!
# Why a resolution fails

A resolution looks for faults in three phases: first among the items, then in what each of them
reaches, at last for endpoints without owner. An earlier phase hides the later ones, and within a
phase the first fault counts (`resolve_failure`).
-/

namespace PbxTemplates

variable {c : Canonicalizer} {catalog : Catalog} {items : List Item} {tenants : TenantDirectory}
  {owners : OwnerTable} {err : ResolutionError} {item : Item} {i : Nat}

/-- The endpoint is no template, and no item names it. -/
def Unowned (items : List Item) (e : Endpoint) : Bool :=
  !e.isTemplate && items.all fun i => i.endpoint != e.id

/-! ### The walk -/

theorem resolve_of_itemBodies_error (accepted : OwnerTable.ofItems catalog items = .ok owners)
    (fails : itemBodies c catalog items = .error err) :
    resolve c catalog items tenants = .error err := by
  rw [resolve_eq accepted]
  cases hw : (itemWalk c catalog owners items).1 with
  | ok is =>
    obtain ⟨bodies, ok⟩ := itemBodies_ok hw
    rw [ok] at fails
    cases fails
  | error err' =>
    have same : err' = err := Except.error.inj ((itemBodies_error hw).symm.trans fails)
    rw [same]
    rfl

theorem resolve_of_broken (accepted : OwnerTable.ofItems catalog items = .ok owners)
    (hi : items[i]? = some item) (broken : catalog.Broken item.endpoint)
    (before : ∀ j < i, ∀ other, items[j]? = some other → ¬ catalog.Broken other.endpoint) :
    ∃ err, resolve c catalog items tenants = .error err ∧ catalog.Fault item.endpoint err := by
  obtain ⟨err, fails, fault⟩ := broken.fails (Endpoint.body c)
  refine ⟨err, resolve_of_itemBodies_error accepted ?_, fault⟩
  refine mapM_eq_error_iff.mpr ⟨i, item, hi, fails, fun j hj other hother => ?_⟩
  have grounded := Catalog.not_broken_iff.mp (before j hj other hother)
  exact Catalog.isOk_of_clear (Endpoint.body c) grounded (catalog.clear_nil _) none

/-- If an item reaches something missing or a cycle, the resolution fails with an error that names a
defect of what some item reaches. -/
theorem exists_fault (accepted : OwnerTable.ofItems catalog items = .ok owners)
    (hitem : item ∈ items) (broken : catalog.Broken item.endpoint) :
    ∃ err, resolve c catalog items tenants = .error err ∧
      ∃ i ∈ items, catalog.Fault i.endpoint err := by
  classical
  have some : ∃ i : Nat, ∃ item, items[i]? = some item ∧ catalog.Broken item.endpoint := by
    obtain ⟨i, hi⟩ := List.mem_iff_getElem?.mp hitem
    exact ⟨i, item, hi, broken⟩
  obtain ⟨first, hfirst, broken⟩ := Nat.find_spec some
  have failure : ∃ err, resolve c catalog items tenants = .error err ∧
      catalog.Fault first.endpoint err := by
    refine resolve_of_broken accepted hfirst broken fun j hj other hother hb => ?_
    exact Nat.find_min some hj ⟨other, hother, hb⟩
  obtain ⟨err, fails, fault⟩ := failure
  exact ⟨err, fails, first, List.mem_of_getElem? hfirst, fault⟩

/-! ### Owners -/

theorem isOrphan_eq_unowned {b : BuiltEndpoint} {built : List BuiltEndpoint}
    (accepted : OwnerTable.ofItems catalog items = .ok owners)
    (order : Graph.BuildOrder ⟨c, catalog, owners⟩ built) (hb : b ∈ built) :
    b.isOrphan = Unowned items b.endpoint := by
  have owner : b.owner.isNone = items.all fun i => i.endpoint != b.endpoint.id := by
    rw [Bool.eq_iff_iff, Option.isNone_iff_eq_none, order.owner_eq hb,
      OwnerTable.get?_eq_none_iff accepted]
    simp
  rw [BuiltEndpoint.isOrphan, Unowned, owner]

theorem find?_isOrphan {is : List Nat} (accepted : OwnerTable.ofItems catalog items = .ok owners)
    (hw : (itemWalk c catalog owners items).1 = .ok is) :
    ((itemWalk c catalog owners items).2.built.find? (·.isOrphan)).map (·.endpoint)
      = (catalog.buildOrder (items.map (·.endpoint))).find? (Unowned items) := by
  have order : Graph.BuildOrder ⟨c, catalog, owners⟩ (itemWalk c catalog owners items).2.built :=
    buildOrder_itemWalk
  have endpoints : (itemWalk c catalog owners items).2.endpoints
      = catalog.buildOrder (items.map (·.endpoint)) := Graph.endpoints_walk hw
  have orphans : (itemWalk c catalog owners items).2.built.filter (·.isOrphan)
      = (itemWalk c catalog owners items).2.built.filter fun b => Unowned items b.endpoint :=
    List.filter_congr fun b hb => isOrphan_eq_unowned accepted order hb
  rw [← endpoints, Walk.endpoints, List.find?_map, ← List.head?_filter, orphans,
    List.head?_filter]
  rfl

theorem resolve_eq_error_iff (accepted : OwnerTable.ofItems catalog items = .ok owners)
    (sound : ∀ item ∈ items, ¬ catalog.Broken item.endpoint) :
    resolve c catalog items tenants = .error err ↔
      ∃ e, (catalog.buildOrder (items.map (·.endpoint))).find? (Unowned items) = some e ∧
        err = .missingOwner e.id := by
  have grounded : ∀ id ∈ items.map (·.endpoint), catalog.Grounded id := by
    intro id hid
    obtain ⟨item, hitem, rfl⟩ := List.mem_map.mp hid
    exact Catalog.not_broken_iff.mp (sound item hitem)
  obtain ⟨is, hw⟩ : ∃ is, (itemWalk c catalog owners items).1 = .ok is :=
    Graph.walk_isOk_iff.mpr grounded
  rw [resolve_eq accepted, hw, ← find?_isOrphan accepted hw]
  show Resolution.ofBuilt c tenants _ = .error err ↔ _
  cases howned : (itemWalk c catalog owners items).2.built.find? (·.isOrphan) with
  | none => simp [Resolution.ofBuilt_ok howned]
  | some b => simp [Resolution.ofBuilt_error howned, eq_comm]

/-! ### All phases -/

/-- A resolution fails for the first refused item if there is one. Otherwise it fails for the first
item that reaches something missing or a cycle, with an error that names a defect of what this item
reaches. Otherwise it can only fail for the first endpoint in the order of building that needs an
owner and has none. -/
theorem resolve_failure (c : Canonicalizer) (catalog : Catalog) (items : List Item)
    (tenants : TenantDirectory) :
    (∀ (i : Nat) (item : Item), items[i]? = some item → OwnerTable.Refused catalog items i →
      (∀ j < i, ¬ OwnerTable.Refused catalog items j) →
      if OwnerTable.isTemplate catalog item.endpoint then
        resolve c catalog items tenants = .error (.templateOwned item.endpoint item.owner.kind)
      else ∃ j < i, ∃ first, items[j]? = some first ∧ first.endpoint = item.endpoint ∧
        resolve c catalog items tenants
          = .error (.conflictingOwner item.endpoint first.owner.kind item.owner.kind)) ∧
    ((∀ i, ¬ OwnerTable.Refused catalog items i) →
      ∀ (i : Nat) (item : Item), items[i]? = some item → catalog.Broken item.endpoint →
      (∀ j < i, ∀ other : Item, items[j]? = some other → ¬ catalog.Broken other.endpoint) →
      ∃ err, resolve c catalog items tenants = .error err ∧ catalog.Fault item.endpoint err) ∧
    ((∀ i, ¬ OwnerTable.Refused catalog items i) →
      (∀ item ∈ items, ¬ catalog.Broken item.endpoint) →
      ∀ err, resolve c catalog items tenants = .error err ↔
        ∃ e, (catalog.buildOrder (items.map (·.endpoint))).find? (Unowned items) = some e ∧
          err = .missingOwner e.id) := by
  refine ⟨?_, ?_, ?_⟩
  · intro i item hi refused before
    split
    · rename_i template
      rw [resolve, OwnerTable.ofItems_of_template hi before template]
    · rename_i concrete
      have concrete : OwnerTable.isTemplate catalog item.endpoint = false := by simpa using concrete
      obtain ⟨item', hi', template | ⟨j, hj, first, hfirst, same⟩⟩ := refused
      all_goals obtain rfl : item = item' := Option.some.inj (hi.symm.trans hi')
      · rw [concrete] at template
        cases template
      · refine ⟨j, hj, first, hfirst, same, ?_⟩
        rw [resolve, OwnerTable.ofItems_of_conflict hi before concrete hj hfirst same]
  · intro none i item hi broken before
    obtain ⟨owners, accepted⟩ := OwnerTable.ofItems_isOk_iff_not_refused.mpr none
    exact resolve_of_broken accepted hi broken before
  · intro none sound err
    obtain ⟨owners, accepted⟩ := OwnerTable.ofItems_isOk_iff_not_refused.mpr none
    exact resolve_eq_error_iff accepted sound

/-- Phones at work in a house, one of which inherits from a template that is gone. -/
def switchboard : Catalog where
  endpoints := [
    { id := "phone", name := "phone", tenantId := "t", isTemplate := true },
    { id := "desk", name := "desk", tenantId := "t", parents := ["phone"] },
    { id := "lobby", name := "lobby", tenantId := "t", parents := ["phone", "gone"] },
    { id := "spare", name := "spare", tenantId := "t" },
    { id := "hall", name := "hall", tenantId := "t", parents := ["phone", "spare"] }]
  nodup_ids := by decide

def trunkItems (ids : List String) : List Item := ids.map fun id => ⟨id, .trunk {}⟩

theorem resolve_switchboard :
    let twice := trunkItems ["lobby", "desk"] ++ [⟨"desk", .meetingGuest ⟨"m", "Monday"⟩⟩]
    (∃ j < 2, ∃ first, twice[j]? = some first ∧ first.endpoint = "desk" ∧
      resolve .standard switchboard twice ∅
        = .error (.conflictingOwner "desk" first.owner.kind .meetingGuest)) ∧
    (∃ err, resolve .standard switchboard (trunkItems ["desk", "lobby", "hall"]) ∅ = .error err ∧
      switchboard.Fault "lobby" err) ∧
    resolve .standard switchboard (trunkItems ["desk", "hall"]) ∅
      = .error (.missingOwner "spare") := by
  intro twice
  have phone : switchboard.Grounded "phone" := .intro rfl (by simp)
  have desk : switchboard.Grounded "desk" := .intro rfl (by simpa using phone)
  have spare : switchboard.Grounded "spare" := .intro rfl (by simp)
  have hall : switchboard.Grounded "hall" := .intro rfl (by simpa using ⟨phone, spare⟩)
  have accepted : ∀ {ids : List String},
      (∃ owners, OwnerTable.ofItems switchboard (trunkItems ids) = .ok owners) →
      ∀ i, ¬ OwnerTable.Refused switchboard (trunkItems ids) i :=
    OwnerTable.ofItems_isOk_iff_not_refused.mp
  refine ⟨?_, ?_, ?_⟩
  · exact (resolve_failure .standard switchboard twice ∅).1 2 _ rfl (by decide) (by decide)
  · refine (resolve_failure .standard switchboard (trunkItems ["desk", "lobby", "hall"]) ∅).2.1
      (accepted ⟨_, rfl⟩) 1 _ rfl ?_ ?_
    · exact ⟨"gone", .single ⟨_, rfl, by decide⟩, .inl rfl⟩
    · intro j hj other hother
      obtain rfl : j = 0 := by omega
      cases hother
      exact Catalog.not_broken_iff.mpr desk
  · have sound : ∀ item ∈ trunkItems ["desk", "hall"], ¬ switchboard.Broken item.endpoint := by
      simp [trunkItems, Catalog.not_broken_iff, desk, hall]
    refine ((resolve_failure .standard switchboard (trunkItems ["desk", "hall"]) ∅).2.2
      (accepted ⟨_, rfl⟩) sound _).mpr ?_
    have order : switchboard.buildOrder ["desk", "hall"] = switchboard.endpoints.eraseIdx 2 := by
      simp only [Catalog.buildOrder, List.flatMap_cons, List.flatMap_nil,
        Catalog.lineage_eq desk rfl, Catalog.lineage_eq hall rfl, Catalog.lineage_eq phone rfl,
        Catalog.lineage_eq spare rfl]
      decide
    refine ⟨{ id := "spare", name := "spare", tenantId := "t" }, ?_, rfl⟩
    exact (congrArg _ order).trans (by decide)

end PbxTemplates
