import Mathlib.Data.List.Induction
import Mathlib.Data.List.Nodup
import PbxTemplates.Resolution.Owners

/-!
# What the owner table holds

A table that can be drawn up holds the items themselves (`get?_eq_some_iff`), and it can be drawn up
exactly when no item names a template and no two items name one endpoint (`ofItems_isOk_iff`).
-/

namespace PbxTemplates.OwnerTable

variable {c : Catalog} {owners owners' : OwnerTable} {item : Item} {items : List Item}

theorem add_eq_ok_iff : add c owners item = .ok owners' ↔
    isTemplate c item.endpoint = false ∧ owners.get? item.endpoint = none ∧
      owners.insert item.endpoint item.owner = owners' := by
  unfold add
  cases isTemplate c item.endpoint with
  | true => simp
  | false =>
    cases owners.get? item.endpoint with
    | some first => simp
    | none => simp

theorem ofItems_snoc :
    ofItems c (items ++ [item]) = (ofItems c items).bind (add c · item) := by
  simp only [ofItems, List.foldlM_append, List.foldlM_cons, List.foldlM_nil]
  cases items.foldlM (add c) ∅ with
  | error err => rfl
  | ok owners => cases h : add c owners item <;> simp [bind, Except.bind, pure, Except.pure, h]

theorem ofItems_snoc_eq_ok_iff : ofItems c (items ++ [item]) = .ok owners' ↔
    ∃ owners, ofItems c items = .ok owners ∧ isTemplate c item.endpoint = false ∧
      owners.get? item.endpoint = none ∧ owners.insert item.endpoint item.owner = owners' := by
  rw [ofItems_snoc]
  cases ofItems c items with
  | error err => simp [Except.bind]
  | ok owners => simp [Except.bind, add_eq_ok_iff]

theorem get?_eq_some_iff (h : ofItems c items = .ok owners) (id : String) (o : Owner) :
    owners.get? id = some o ↔ ⟨id, o⟩ ∈ items := by
  induction items using List.reverseRecOn generalizing owners with
  | nil =>
    cases h
    simp [EmptyCollection.emptyCollection]
  | append_singleton items item ih =>
    obtain ⟨before, hbefore, _, fresh, rfl⟩ := ofItems_snoc_eq_ok_iff.mp h
    rw [SortedMap.get?_insert, List.mem_append, List.mem_singleton, ← ih hbefore]
    by_cases hid : id = item.endpoint
    · subst hid
      simp [fresh, Item.ext_iff, eq_comm]
    · simp [hid, Item.ext_iff]

theorem get?_eq_none_iff (h : ofItems c items = .ok owners) (id : String) :
    owners.get? id = none ↔ ∀ i ∈ items, i.endpoint ≠ id := by
  rw [Option.eq_none_iff_forall_ne_some]
  constructor
  · rintro none i hi rfl
    exact none i.owner ((get?_eq_some_iff h _ _).mpr hi)
  · intro others o ho
    exact others _ ((get?_eq_some_iff h _ _).mp ho) rfl

theorem owner_eq_of_mem {id : String} {o o' : Owner} (h : ofItems c items = .ok owners)
    (ho : ⟨id, o⟩ ∈ items) (ho' : ⟨id, o'⟩ ∈ items) : o = o' := by
  have first := (get?_eq_some_iff h id o).mpr ho
  have second := (get?_eq_some_iff h id o').mpr ho'
  exact Option.some.inj (first.symm.trans second)

theorem isTemplate_of_get {id : String} {e : Endpoint} (held : c.get? id = some e) :
    isTemplate c id = e.isTemplate := by
  simp [isTemplate, held]

theorem ofItems_isOk_iff : (∃ owners, ofItems c items = .ok owners) ↔
    (items.map (·.endpoint)).Nodup ∧ ∀ i ∈ items, isTemplate c i.endpoint = false := by
  induction items using List.reverseRecOn with
  | nil => simp [ofItems, pure, Except.pure]
  | append_singleton items item ih =>
    have nodup : ((items ++ [item]).map (·.endpoint)).Nodup ↔
        (items.map (·.endpoint)).Nodup ∧ ∀ i ∈ items, i.endpoint ≠ item.endpoint := by
      rw [List.map_append, List.nodup_append]
      simp
    have concrete : (∀ i ∈ items ++ [item], isTemplate c i.endpoint = false) ↔
        (∀ i ∈ items, isTemplate c i.endpoint = false) ∧ isTemplate c item.endpoint = false := by
      simp [or_imp, forall_and]
    rw [nodup, concrete]
    constructor
    · rintro ⟨_, h⟩
      obtain ⟨owners, howners, ht, fresh, _⟩ := ofItems_snoc_eq_ok_iff.mp h
      obtain ⟨hn, hc⟩ := ih.mp ⟨owners, howners⟩
      exact ⟨⟨hn, (get?_eq_none_iff howners _).mp fresh⟩, hc, ht⟩
    · rintro ⟨⟨hn, fresh⟩, hc, ht⟩
      obtain ⟨owners, howners⟩ := ih.mpr ⟨hn, hc⟩
      have fresh := (get?_eq_none_iff howners _).mpr fresh
      exact ⟨_, ofItems_snoc_eq_ok_iff.mpr ⟨owners, howners, ht, fresh, rfl⟩⟩

end PbxTemplates.OwnerTable
