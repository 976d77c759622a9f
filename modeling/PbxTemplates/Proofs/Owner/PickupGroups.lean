import PbxTemplates.Proofs.Endpoint.SingleKeys
import PbxTemplates.Proofs.SortedMap

/-!
# The pickup groups of a line

A line adds one entry for each of its two roles in pickup groups, unless it has that role in no
group. The entry lists the numbers of the groups in increasing order, so neither the order nor the
repetition of memberships shows in it, and neither do those of the other role
(`Line.pickup_groups_listed`).
-/

namespace PbxTemplates

def PickupRole.key : PickupRole → String
  | pickup => "named_pickup_group"
  | call => "named_call_group"

/-- The text lists the numbers: decimals with commas between them. -/
def Lists (text : String) (numbers : List Nat) : Prop :=
  (text.toList.splitOn ',').map Decimal.read? = numbers.map some

theorem lists_text {ids : List UInt64} (h : ids ≠ []) :
    Lists (",".intercalate (ids.map fun id => Decimal.text id.toNat)) (ids.map (·.toNat)) := by
  have pieces : (ids.map fun id => Decimal.text id.toNat).map String.toList
      = ids.map fun id => Decimal.digits id.toNat := by
    simp [Decimal.text]
  have noComma : ∀ piece ∈ ids.map fun id => Decimal.digits id.toNat, ',' ∉ piece := by
    intro piece hpiece hcomma
    obtain ⟨id, _, rfl⟩ := List.mem_map.mp hpiece
    exact absurd (Decimal.isDigit_of_mem_digits hcomma) (by decide)
  unfold Lists
  rw [String.toList_intercalate, pieces]
  show (List.splitOn ',' (List.intercalate [','] _)).map _ = _
  rw [List.splitOn_intercalate ',' noComma (by simpa using h)]
  simp [Decimal.read?_digits]

namespace Line

variable {l l' : Line} {role other : PickupRole} {key : String} {id : UInt64}

/-! ### The numbers of the groups -/

theorem mem_groupIds_iff : id ∈ l.groupIds role ↔ ⟨id, role⟩ ∈ l.pickupGroups := by
  unfold groupIds
  rw [SortedMap.mem_keys_ofKeys_iff]
  constructor
  · intro h
    obtain ⟨m, hm, rfl⟩ := List.mem_map.mp h
    obtain ⟨hm, here⟩ := List.mem_filter.mp hm
    rw [← beq_iff_eq.mp here]
    exact hm
  · intro h
    exact List.mem_map.mpr ⟨_, List.mem_filter.mpr ⟨h, beq_self_eq_true role⟩, rfl⟩

theorem groupId_mem_groupIds {m : PickupMembership} (h : m ∈ l.pickupGroups) :
    m.groupId ∈ l.groupIds m.role :=
  mem_groupIds_iff.mpr h

theorem groupIds_increasing (l : Line) (role : PickupRole) :
    (l.groupIds role).Pairwise (· < ·) := by
  unfold groupIds
  exact List.pairwise_map.mpr ((SortedMap.ofKeys _).sorted.imp Std.compare_eq_lt.mp)

theorem numbers_increasing (l : Line) (role : PickupRole) :
    ((l.groupIds role).map (·.toNat)).Pairwise (· < ·) :=
  List.pairwise_map.mpr ((l.groupIds_increasing role).imp UInt64.lt_iff_toNat_lt.mp)

theorem mem_numbers_iff {n : Nat} : n ∈ (l.groupIds role).map (·.toNat) ↔
    ∃ m ∈ l.pickupGroups, m.role = role ∧ m.groupId.toNat = n := by
  constructor
  · intro hn
    obtain ⟨id, hid, rfl⟩ := List.mem_map.mp hn
    exact ⟨_, mem_groupIds_iff.mp hid, rfl, rfl⟩
  · rintro ⟨m, hm, here, rfl⟩
    exact List.mem_map_of_mem (here ▸ groupId_mem_groupIds hm)

theorem groupIds_congr (h : ∀ id, ⟨id, role⟩ ∈ l.pickupGroups ↔ ⟨id, role⟩ ∈ l'.pickupGroups) :
    l.groupIds role = l'.groupIds role := by
  have same : ∀ id, id ∈ l.groupIds role ↔ id ∈ l'.groupIds role := fun id => by
    rw [mem_groupIds_iff, mem_groupIds_iff, h]
  have increasing := l.groupIds_increasing role
  have increasing' := l'.groupIds_increasing role
  refine ((List.perm_ext_iff_of_nodup ?_ ?_).mpr same).eq_of_pairwise ?_ increasing increasing'
  · exact increasing.imp UInt64.ne_of_lt
  · exact increasing'.imp UInt64.ne_of_lt
  · intro a b _ _ below above
    exact absurd below (UInt64.lt_asymm above)

/-! ### The entries -/

theorem groupEntries_congr (h : l.groupIds role = l'.groupIds role) :
    l.groupEntries key role = l'.groupEntries key role := by
  unfold groupEntries
  rw [h]

theorem groupEntries_of_eq_nil (h : l.groupIds role = []) : l.groupEntries key role = [] := by
  unfold groupEntries
  rw [h]

theorem groupEntries_of_ne_nil (key : String) (h : l.groupIds role ≠ []) :
    ∃ text, l.groupEntries key role = [⟨key, text⟩] ∧
      Lists text ((l.groupIds role).map (·.toNat)) := by
  refine ⟨_, ?_, lists_text h⟩
  unfold groupEntries
  split
  · contradiction
  · rfl

theorem values_callEntries (l : Line) (role : PickupRole) : l.callEntries.values role.key = [] := by
  refine Section.values_eq_nil_iff.mpr fun hk => ?_
  obtain ⟨e, he, hk⟩ := List.mem_map.mp hk
  rcases key_of_mem_callEntries he with h | h <;> cases role <;> simp [PickupRole.key, h] at hk

theorem values_groupEntries_of_ne (h : other ≠ role) :
    (l.groupEntries other.key other).values role.key = [] := by
  refine Section.values_eq_nil_iff.mpr fun hk => ?_
  obtain ⟨e, he, hk⟩ := List.mem_map.mp hk
  rw [key_of_mem_groupEntries he] at hk
  cases other <;> cases role <;> simp_all [PickupRole.key]

theorem injection_line (l : Line) (tenant : TenantSettings) : (Owner.line l).injection tenant
    = { l.injection with endpoint := l.injection.endpoint ++ [tenant.recordingEntry] } := rfl

theorem values_injection (l : Line) (tenant : TenantSettings) (role : PickupRole) :
    ((Owner.line l).injection tenant).endpoint.values role.key
      = (l.groupEntries role.key role).values role.key := by
  have recording : Section.values [tenant.recordingEntry] role.key = [] := by
    cases role <;> rfl
  rw [injection_line, Section.values_append, recording, injection_endpoint, Section.values_append,
    Section.values_append, values_callEntries]
  cases role with
  | pickup =>
    have none : (l.groupEntries "named_call_group" .call).values PickupRole.pickup.key = [] :=
      values_groupEntries_of_ne (by decide)
    rw [none]
    simp [PickupRole.key]
  | call =>
    have none : (l.groupEntries "named_pickup_group" .pickup).values PickupRole.call.key = [] :=
      values_groupEntries_of_ne (by decide)
    rw [none]
    simp [PickupRole.key]

theorem injection_congr {memberships : List PickupMembership}
    (h : ∀ m, m ∈ memberships ↔ m ∈ l.pickupGroups) :
    ({ l with pickupGroups := memberships } : Line).injection = l.injection := by
  have same (key : String) (role : PickupRole) :
      ({ l with pickupGroups := memberships } : Line).groupEntries key role
        = l.groupEntries key role :=
    groupEntries_congr (groupIds_congr fun id => h ⟨id, role⟩)
  refine Injection.ext ?_ rfl
  rw [injection_endpoint, injection_endpoint, same, same]
  rfl

/-- A line injects one entry for a role that it has in a group and none otherwise. The entry lists
the numbers of those groups in increasing order. So the order and the repetition of memberships make
no difference, and neither do the memberships of the other role. -/
theorem pickup_groups_listed (tenant : TenantSettings) :
    (∀ (l : Line) (role : PickupRole),
      ((∃ m ∈ l.pickupGroups, m.role = role) →
        ∃ text numbers, ((Owner.line l).injection tenant).endpoint.values role.key = [text] ∧
          Lists text numbers ∧ numbers.Pairwise (· < ·) ∧
          ∀ n, n ∈ numbers ↔ ∃ m ∈ l.pickupGroups, m.role = role ∧ m.groupId.toNat = n) ∧
      ((∀ m ∈ l.pickupGroups, m.role ≠ role) →
        ((Owner.line l).injection tenant).endpoint.values role.key = [])) ∧
    (∀ (l : Line) (memberships : List PickupMembership),
      (∀ m, m ∈ memberships ↔ m ∈ l.pickupGroups) →
        (Owner.line { l with pickupGroups := memberships }).injection tenant
          = (Owner.line l).injection tenant) ∧
    ∀ (l l' : Line) (role : PickupRole),
      (∀ id, ⟨id, role⟩ ∈ l.pickupGroups ↔ ⟨id, role⟩ ∈ l'.pickupGroups) →
        ((Owner.line l).injection tenant).endpoint.values role.key
          = ((Owner.line l').injection tenant).endpoint.values role.key := by
  refine ⟨fun l role => ⟨?_, ?_⟩, ?_, ?_⟩
  · rintro ⟨m, hm, here⟩
    have some : l.groupIds role ≠ [] := List.ne_nil_of_mem (here ▸ groupId_mem_groupIds hm)
    obtain ⟨text, entry, lists⟩ := groupEntries_of_ne_nil role.key some
    refine ⟨text, _, ?_, lists, l.numbers_increasing role, fun n => mem_numbers_iff⟩
    rw [values_injection, entry]
    simp [Section.values_cons]
  · intro none
    have empty : l.groupIds role = [] := List.eq_nil_iff_forall_not_mem.mpr fun id hid =>
      none _ (mem_groupIds_iff.mp hid) rfl
    rw [values_injection, groupEntries_of_eq_nil empty]
    rfl
  · intro l memberships h
    rw [injection_line, injection_line, injection_congr h]
  · intro l l' role h
    rw [values_injection, values_injection, groupEntries_congr (groupIds_congr h)]

example : Line.groupEntries
    { id := 1, pickupGroups := [⟨10, .pickup⟩, ⟨9, .pickup⟩, ⟨8, .call⟩, ⟨10, .pickup⟩] }
    "named_pickup_group" .pickup = [⟨"named_pickup_group", "9,10"⟩] := by cbv

end Line

end PbxTemplates
