import PbxTemplates.Proofs.Resolution.OwnerTable

/-!
# Which items are refused

An item is refused if it names a template or an endpoint that an earlier item names. The owner table
can be drawn up exactly when no item is refused (`ofItems_isOk_iff_not_refused`). Otherwise its
error is that of the first refused item, whatever comes after it.
-/

namespace PbxTemplates

theorem getElem?_take_eq_some_iff {α : Type} {l : List α} {x : α} {i j : Nat} :
    (l.take i)[j]? = some x ↔ j < i ∧ l[j]? = some x := by
  rw [List.getElem?_take]
  exact Option.ite_none_right_eq_some

theorem mem_take_iff {α : Type} {l : List α} {x : α} {i : Nat} :
    x ∈ l.take i ↔ ∃ j < i, l[j]? = some x := by
  rw [List.mem_iff_getElem?]
  exact exists_congr fun j => getElem?_take_eq_some_iff

namespace OwnerTable

variable {c : Catalog} {owners : OwnerTable} {items : List Item} {item first : Item} {i j : Nat}
  {err : ResolutionError}

/-- The item at this place names a template, or an endpoint that an earlier item names. -/
def Refused (c : Catalog) (items : List Item) (i : Nat) : Prop :=
  ∃ item, items[i]? = some item ∧ (isTemplate c item.endpoint = true ∨
    ∃ j < i, ∃ first, items[j]? = some first ∧ first.endpoint = item.endpoint)

theorem endpoint_ne_of_lt (nodup : (items.map (·.endpoint)).Nodup) (hfirst : items[j]? = some first)
    (hi : items[i]? = some item) (lt : j < i) : first.endpoint ≠ item.endpoint := by
  intro same
  have inside : i < (items.map (·.endpoint)).length := by
    simpa using (List.getElem?_eq_some_iff.mp hi).1
  refine List.nodup_iff_getElem?_ne_getElem?.mp nodup j i lt inside ?_
  rw [List.getElem?_map, List.getElem?_map, hi, hfirst, Option.map_some, Option.map_some, same]

theorem ofItems_isOk_iff_not_refused :
    (∃ owners, ofItems c items = .ok owners) ↔ ∀ i, ¬ Refused c items i := by
  rw [ofItems_isOk_iff]
  constructor
  · rintro ⟨nodup, concrete⟩ i ⟨item, hi, template | ⟨j, hj, first, hfirst, same⟩⟩
    · rw [concrete item (List.mem_of_getElem? hi)] at template
      cases template
    · exact endpoint_ne_of_lt nodup hfirst hi hj same
  · intro h
    refine ⟨List.nodup_iff_getElem?_ne_getElem?.mpr fun j i hj hi same => ?_, fun item hitem => ?_⟩
    · have inside : i < items.length := by simpa using hi
      have earlier : j < items.length := Nat.lt_trans hj inside
      have endpoints : items[j].endpoint = items[i].endpoint := by
        simpa [inside, earlier] using same
      exact h i ⟨items[i], List.getElem?_eq_getElem inside,
        .inr ⟨j, hj, items[j], List.getElem?_eq_getElem earlier, endpoints⟩⟩
    · obtain ⟨i, hi⟩ := List.mem_iff_getElem?.mp hitem
      cases template : isTemplate c item.endpoint with
      | false => rfl
      | true => exact absurd ⟨item, hi, .inl template⟩ (h i)

theorem refused_iff : Refused c items i ↔
    items[i]?.any (fun item => isTemplate c item.endpoint ||
      (items.take i).any fun first => first.endpoint == item.endpoint) = true := by
  simp only [Refused, Option.any_eq_true, Bool.or_eq_true, List.any_eq_true, beq_iff_eq,
    mem_take_iff]
  grind

instance : Decidable (Refused c items i) := decidable_of_iff _ refused_iff.symm

/-- The table can fail for no other reasons. -/
theorem ofItems_error_cases (h : ofItems c items = .error err) :
    (∃ id kind, err = .templateOwned id kind) ∨
      ∃ id first second, err = .conflictingOwner id first second := by
  induction items using List.reverseRecOn generalizing err with
  | nil => cases h
  | append_singleton items item ih =>
    rw [ofItems_snoc] at h
    cases before : ofItems c items with
    | error err' =>
      rw [before] at h
      cases h
      exact ih before
    | ok owners =>
      rw [before] at h
      have fails : add c owners item = .error err := h
      unfold add at fails
      split at fails
      · cases fails
        exact .inl ⟨_, _, rfl⟩
      · split at fails
        · cases fails
          exact .inr ⟨_, _, _, rfl⟩
        · cases fails

/-! ### The first refused item -/

theorem Refused.of_take (h : Refused c (items.take i) j) : j < i ∧ Refused c items j := by
  obtain ⟨item, hitem, bad⟩ := h
  obtain ⟨hj, hitem⟩ := getElem?_take_eq_some_iff.mp hitem
  refine ⟨hj, item, hitem, bad.imp_right ?_⟩
  rintro ⟨k, hk, first, hfirst, same⟩
  exact ⟨k, hk, first, (getElem?_take_eq_some_iff.mp hfirst).2, same⟩

/-- The items before the first refused one have a table, and this item is added to it. -/
theorem exists_before (before : ∀ j < i, ¬ Refused c items j) :
    ∃ owners, ofItems c (items.take i) = .ok owners :=
  ofItems_isOk_iff_not_refused.mpr fun j hj => before j hj.of_take.1 hj.of_take.2

theorem ofItems_error (hi : items[i]? = some item)
    (before : ofItems c (items.take i) = .ok owners) (fails : add c owners item = .error err) :
    ofItems c items = .error err := by
  obtain ⟨inside, rfl⟩ := List.getElem?_eq_some_iff.mp hi
  rw [ofItems] at before
  rw [ofItems, ← List.take_append_drop i items, List.foldlM_append, before,
    List.drop_eq_getElem_cons inside]
  show (items[i] :: items.drop (i + 1)).foldlM (add c) owners = .error err
  rw [List.foldlM_cons, fails]
  rfl

theorem ofItems_of_template (hi : items[i]? = some item) (before : ∀ j < i, ¬ Refused c items j)
    (template : isTemplate c item.endpoint = true) :
    ofItems c items = .error (.templateOwned item.endpoint item.owner.kind) := by
  obtain ⟨owners, howners⟩ := exists_before before
  exact ofItems_error hi howners (by simp [add, template])

theorem ofItems_of_conflict (hi : items[i]? = some item) (before : ∀ j < i, ¬ Refused c items j)
    (concrete : isTemplate c item.endpoint = false) (hj : j < i) (hfirst : items[j]? = some first)
    (same : first.endpoint = item.endpoint) :
    ofItems c items
      = .error (.conflictingOwner item.endpoint first.owner.kind item.owner.kind) := by
  obtain ⟨owners, howners⟩ := exists_before before
  have named : (⟨item.endpoint, first.owner⟩ : Item) ∈ items.take i := by
    rw [← same]
    exact mem_take_iff.mpr ⟨j, hj, hfirst⟩
  have owner := (get?_eq_some_iff howners item.endpoint first.owner).mpr named
  exact ofItems_error hi howners (by simp [add, concrete, owner])

end OwnerTable

end PbxTemplates
