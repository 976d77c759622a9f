import Mathlib.Data.List.Induction
import Mathlib.Data.List.Nodup
import PbxTemplates.Proofs.FirstPlaces
import PbxTemplates.SortedMap

/-!
# Maps made from lists

A map is determined by what it holds, not by the order in which that came in: a list of entries with
different keys makes the map whose entries are those of the list (`toList_ofList_perm`), and there
is only one such map (`ofList_eq_of_perm`). Two maps that hold the same at every key are equal
(`eq_of_get?_eq`), and a map added to another one hides what is at its keys
(`get?_insertMany_toList`).
-/

namespace PbxTemplates.SortedMap

universe u v

variable {κ : Type u} {α : Type v} [Ord κ] {m m' : SortedMap κ α} {l : List (κ × α)}

theorem eq_of_perm [Std.TransOrd κ] (h : m.toList.Perm m'.toList) : m = m' := by
  refine SortedMap.ext (h.eq_of_pairwise ?_ m.sorted m'.sorted)
  intro a b _ _ below above
  rw [Std.OrientedOrd.eq_swap, above] at below
  cases below

theorem nodup_keys [Std.ReflOrd κ] (m : SortedMap κ α) : (m.toList.map (·.1)).Nodup := by
  refine List.pairwise_map.mpr (m.sorted.imp fun {a b} below same => ?_)
  rw [same, Std.ReflOrd.compare_self] at below
  cases below

def isAt (k : κ) (e : κ × α) : Bool := compare k e.1 == .eq

theorem isAt_iff [Std.LawfulEqOrd κ] {k : κ} {e : κ × α} : isAt k e ↔ k = e.1 :=
  Std.LawfulEqOrd.compare_beq_iff_eq

theorem mem_toList_iff [Std.TransOrd κ] [Std.LawfulEqOrd κ] {k : κ} {x : α} :
    (k, x) ∈ m.toList ↔ m.get? k = some x := by
  have unique : ∀ a ∈ m.toList, ∀ b ∈ m.toList, isAt k a → isAt k b → a = b :=
    fun a ha b hb hka hkb => List.inj_on_of_nodup_map m.nodup_keys ha hb
      ((isAt_iff.mp hka).symm.trans (isAt_iff.mp hkb))
  show _ ↔ (m.toList.find? (isAt k)).map (·.2) = some x
  simp only [Option.map_eq_some_iff, find?_eq_some_iff_of_unique unique, isAt_iff]
  constructor
  · intro held
    exact ⟨(k, x), ⟨held, rfl⟩, rfl⟩
  · rintro ⟨e, ⟨held, rfl⟩, rfl⟩
    exact held

theorem mem_keys_iff [Std.TransOrd κ] [Std.LawfulEqOrd κ] {k : κ} :
    k ∈ m.keys ↔ ∃ x, m.get? k = some x := by
  simp only [keys, List.mem_map, Prod.exists, mem_toList_iff, exists_and_right, exists_eq_right]

theorem eq_of_get?_eq [Std.TransOrd κ] [Std.LawfulEqOrd κ] (h : ∀ k, m.get? k = m'.get? k) :
    m = m' := by
  refine eq_of_perm ((List.perm_ext_iff_of_nodup m.nodup_keys.of_map m'.nodup_keys.of_map).mpr ?_)
  rintro ⟨k, x⟩
  rw [mem_toList_iff, mem_toList_iff, h]

theorem insertEntry_perm [Std.LawfulEqOrd κ] {k : κ} (x : α) (fresh : ∀ e ∈ l, e.1 ≠ k) :
    (insertEntry k x l).Perm ((k, x) :: l) := by
  induction l with
  | nil => exact .refl _
  | cons a l ih =>
    have others : ∀ e ∈ l, e.1 ≠ k := fun e he => fresh e (List.mem_cons_of_mem _ he)
    rw [insertEntry]
    split
    · exact .refl _
    · rename_i same
      exact absurd (Std.LawfulEqOrd.eq_of_compare same).symm (fresh a List.mem_cons_self)
    · exact ((ih others).cons a).trans (.swap _ _ l)

theorem isSome_get?_insertMany_iff [Std.TransOrd κ] [Std.LawfulEqOrd κ] {k : κ} :
    ((m.insertMany l).get? k).isSome ↔ (m.get? k).isSome ∨ k ∈ l.map (·.1) := by
  induction l generalizing m with
  | nil => simp [insertMany]
  | cons e l ih =>
    have rest : m.insertMany (e :: l) = (m.insert e.1 e.2).insertMany l := rfl
    rw [rest, ih]
    by_cases h : k = e.1
    · simp [h]
    · simp [get?_insert_of_ne m h, h]

theorem get?_insertMany_of_nodup [Std.TransOrd κ] [Std.LawfulEqOrd κ]
    (h : (l.map (·.1)).Nodup) (k : κ) :
    (m.insertMany l).get? k = ((l.find? (isAt k)).map (·.2)).or (m.get? k) := by
  induction l generalizing m with
  | nil => rfl
  | cons e l ih =>
    obtain ⟨fresh, nodup⟩ := List.nodup_cons.mp h
    have rest : m.insertMany (e :: l) = (m.insert e.1 e.2).insertMany l := rfl
    rw [rest, ih nodup]
    by_cases here : k = e.1
    · have later : l.find? (isAt k) = none := by
        refine List.find?_eq_none.mpr fun e' he' again => fresh ?_
        exact List.mem_map.mpr ⟨e', he', (isAt_iff.mp again).symm.trans here⟩
      rw [later, List.find?_cons_of_pos (isAt_iff.mpr here), here, get?_insert_self]
      rfl
    · rw [List.find?_cons_of_neg (here ∘ isAt_iff.mp), get?_insert_of_ne m here]

theorem get?_insertMany_toList [Std.TransOrd κ] [Std.LawfulEqOrd κ] (m m' : SortedMap κ α)
    (k : κ) : (m.insertMany m'.toList).get? k = (m'.get? k).or (m.get? k) :=
  get?_insertMany_of_nodup m'.nodup_keys k

theorem ofList_snoc [Std.TransOrd κ] (l : List (κ × α)) (e : κ × α) :
    ofList (l ++ [e]) = (ofList l).insert e.1 e.2 := by
  rw [ofList, insertMany, List.foldl_append]
  rfl

theorem mem_keys_ofKeys_iff [Std.TransOrd κ] [Std.LawfulEqOrd κ] {l : List κ} {k : κ} :
    k ∈ (ofKeys l).keys ↔ k ∈ l := by
  rw [mem_keys_iff, ← Option.isSome_iff_exists, ofKeys, ofList, isSome_get?_insertMany_iff]
  simp

theorem toList_ofList_perm [Std.TransOrd κ] [Std.LawfulEqOrd κ] (h : (l.map (·.1)).Nodup) :
    (ofList l).toList.Perm l := by
  induction l using List.reverseRecOn with
  | nil => exact .refl _
  | append_singleton l e ih =>
    rw [List.map_append, List.nodup_append] at h
    obtain ⟨nodup, _, fresh⟩ := h
    have entries := ih nodup
    have fresh : ∀ e' ∈ (ofList l).toList, e'.1 ≠ e.1 := fun e' he' =>
      fresh e'.1 (List.mem_map_of_mem (entries.mem_iff.mp he')) e.1 (by simp)
    rw [ofList_snoc]
    exact ((insertEntry_perm e.2 fresh).trans (entries.cons e)).trans
      (List.perm_append_singleton e l).symm

theorem ofList_eq_of_perm [Std.TransOrd κ] [Std.LawfulEqOrd κ] (h : l.Perm m.toList) :
    ofList l = m := by
  have nodup : (l.map (·.1)).Nodup := (h.map _).nodup_iff.mpr m.nodup_keys
  exact eq_of_perm ((toList_ofList_perm nodup).trans h)

end PbxTemplates.SortedMap
