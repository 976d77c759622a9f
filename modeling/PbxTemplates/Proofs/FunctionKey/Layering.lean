import Mathlib.Data.List.Perm.Subperm
import PbxTemplates.FunctionKey.Basic
import PbxTemplates.Proofs.SortedMap

/-!
# Layers of keys

A template laid over another one hides the keys at its own positions and no others, each of them as
a whole. Layers may be put together in any grouping, and a layer without keys hides nothing
(`layering_laws`).
-/

namespace PbxTemplates

namespace KeyTemplate

variable {t t' : KeyTemplate} {position : UInt32}

theorem eq_of_get?_eq (id : t.id = t'.id) (name : t.name = t'.name)
    (isPrivate : t.isPrivate = t'.isPrivate)
    (keys : ∀ position, t.get? position = t'.get? position) : t = t' :=
  KeyTemplate.ext id name isPrivate (SortedMap.eq_of_get?_eq keys)

/-! ### Positions -/

theorem positions_increasing (t : KeyTemplate) : t.positions.Pairwise (· < ·) :=
  List.pairwise_map.mpr (t.keys.sorted.imp Std.compare_eq_lt.mp)

theorem nodup_positions (t : KeyTemplate) : t.positions.Nodup := t.keys.nodup_keys

theorem mem_positions_iff : position ∈ t.positions ↔ ∃ key, t.get? position = some key :=
  SortedMap.mem_keys_iff

theorem get?_eq_none_iff : t.get? position = none ↔ position ∉ t.positions := by
  rw [mem_positions_iff, Option.eq_none_iff_forall_ne_some, not_exists]

theorem length_positions (t : KeyTemplate) : t.positions.length = t.size := List.length_map _

/-! ### One layer over another -/

theorem get?_layer (lower upper : KeyTemplate) (position : UInt32) :
    (lower.layer upper).get? position = (upper.get? position).or (lower.get? position) :=
  SortedMap.get?_insertMany_toList lower.keys upper.keys position

theorem get?_layer_of_mem (lower : KeyTemplate) {upper : KeyTemplate}
    (h : position ∈ upper.positions) : (lower.layer upper).get? position = upper.get? position := by
  obtain ⟨key, found⟩ := mem_positions_iff.mp h
  rw [get?_layer, found]
  rfl

theorem get?_layer_of_not_mem (lower : KeyTemplate) {upper : KeyTemplate}
    (h : position ∉ upper.positions) : (lower.layer upper).get? position = lower.get? position := by
  rw [get?_layer, get?_eq_none_iff.mpr h]
  rfl

theorem mem_positions_layer_iff {lower upper : KeyTemplate} :
    position ∈ (lower.layer upper).positions ↔
      position ∈ lower.positions ∨ position ∈ upper.positions := by
  rw [mem_positions_iff]
  by_cases h : position ∈ upper.positions
  · rw [get?_layer_of_mem lower h, ← mem_positions_iff]
    simp [h]
  · rw [get?_layer_of_not_mem lower h, ← mem_positions_iff]
    simp [h]

theorem layer_assoc (a b c : KeyTemplate) : (a.layer b).layer c = a.layer (b.layer c) := by
  refine eq_of_get?_eq rfl rfl rfl fun position => ?_
  rw [get?_layer, get?_layer, get?_layer, get?_layer, Option.or_assoc]

theorem layer_self (a : KeyTemplate) : (a.layer a).keys = a.keys := by
  refine SortedMap.eq_of_get?_eq fun position => ?_
  show (a.layer a).get? position = a.get? position
  rw [get?_layer, Option.or_self]

theorem layer_empty (a : KeyTemplate) {e : KeyTemplate} (h : e.positions = []) :
    (a.layer e).keys = a.keys :=
  SortedMap.eq_of_get?_eq fun _ => get?_layer_of_not_mem a (by simp [h])

theorem empty_layer (a : KeyTemplate) {e : KeyTemplate} (h : e.positions = []) :
    (e.layer a).keys = a.keys := by
  refine SortedMap.eq_of_get?_eq fun position => ?_
  have none : e.get? position = none := get?_eq_none_iff.mpr (by simp [h])
  show (e.layer a).get? position = a.get? position
  rw [get?_layer, none, Option.or_none]

/-! ### How many keys there are -/

theorem size_le_of_subset (h : t.positions ⊆ t'.positions) : t.size ≤ t'.size := by
  rw [← length_positions, ← length_positions]
  exact (t.nodup_positions.subperm h).length_le

theorem size_layer_le (lower upper : KeyTemplate) :
    (lower.layer upper).size ≤ lower.size + upper.size := by
  have known : (lower.layer upper).positions ⊆ lower.positions ++ upper.positions :=
    fun position h => List.mem_append.mpr (mem_positions_layer_iff.mp h)
  have bound := ((nodup_positions _).subperm known).length_le
  rw [List.length_append, length_positions, length_positions, length_positions] at bound
  exact bound

theorem le_size_layer (lower upper : KeyTemplate) :
    max lower.size upper.size ≤ (lower.layer upper).size := by
  have below : lower.size ≤ (lower.layer upper).size :=
    size_le_of_subset fun position h => mem_positions_layer_iff.mpr (.inl h)
  have above : upper.size ≤ (lower.layer upper).size :=
    size_le_of_subset fun position h => mem_positions_layer_iff.mpr (.inr h)
  omega

/-- Layers can be grouped in any way. One over another has the keys of the upper one at its
positions, those of the lower one elsewhere, and nothing else; its positions stand in increasing
order. A layer without keys, below or above, and a template over itself change no key. Whatever the
two templates are called, the layers have no name. -/
theorem layering_laws (a b c : KeyTemplate) :
    (a.layer b).layer c = a.layer (b.layer c) ∧
    (∀ position, (a.layer b).get? position
      = if position ∈ b.positions then b.get? position else a.get? position) ∧
    (∀ position, position ∈ (a.layer b).positions ↔
      position ∈ a.positions ∨ position ∈ b.positions) ∧
    (a.layer b).positions.Pairwise (· < ·) ∧
    (a.layer b).positions.length = (a.layer b).size ∧
    max a.size b.size ≤ (a.layer b).size ∧ (a.layer b).size ≤ a.size + b.size ∧
    (∀ e : KeyTemplate, e.size = 0 → (e.layer a).keys = a.keys ∧ (a.layer e).keys = a.keys) ∧
    (a.layer a).keys = a.keys ∧
    (a.layer b).id = none ∧ (a.layer b).name = none ∧ (a.layer b).isPrivate = false := by
  refine ⟨a.layer_assoc b c, fun position => ?_, fun _ => mem_positions_layer_iff,
    positions_increasing _, length_positions _, a.le_size_layer b, a.size_layer_le b, fun e he => ?_,
    a.layer_self, rfl, rfl, rfl⟩
  · split
    · next h => exact get?_layer_of_mem a h
    · next h => exact get?_layer_of_not_mem a h
  · have empty : e.positions = [] := List.length_eq_zero_iff.mp (e.length_positions.trans he)
    exact ⟨a.empty_layer empty, a.layer_empty empty⟩

end KeyTemplate

end PbxTemplates
