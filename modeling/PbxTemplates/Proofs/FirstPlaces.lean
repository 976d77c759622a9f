import Mathlib.Data.List.Induction
import Mathlib.Data.List.Nodup

/-!
# The first places of the elements of a list

`List.eraseDups` keeps each element of a list at its first place (`pairwise_idxOf_eraseDups`). What
is added at the end of a list therefore does not change the order of what was there before
(`pairwise_eraseDups_append`), and it makes no difference whether repetitions go in one step or in
several. A search for a property ends at the first place where it holds (`IsFirst`).
-/

namespace PbxTemplates

universe u

/-- The element is the first one in the list with the property. -/
def IsFirst {α : Type} (p : α → Prop) (l : List α) (x : α) : Prop :=
  p x ∧ ∃ before after, l = before ++ x :: after ∧ ∀ y ∈ before, ¬ p y

theorem find?_eq_some_iff_isFirst {α : Type} {q : α → Bool} {p : α → Prop}
    (h : ∀ y, q y ↔ p y) {l : List α} {x : α} : l.find? q = some x ↔ IsFirst p l x := by
  simp only [List.find?_eq_some_iff_append, IsFirst, Bool.not_eq_true', ← Bool.not_eq_true, h]

theorem find?_eq_none_iff_forall {α : Type} {q : α → Bool} {p : α → Prop}
    (h : ∀ y, q y ↔ p y) {l : List α} : l.find? q = none ↔ ∀ y ∈ l, ¬ p y := by
  simp only [List.find?_eq_none, h]

theorem find?_eq_some_iff_of_unique {α : Type u} {q : α → Bool} {l : List α} {x : α}
    (unique : ∀ y ∈ l, ∀ z ∈ l, q y → q z → y = z) : l.find? q = some x ↔ x ∈ l ∧ q x := by
  constructor
  · intro found
    exact ⟨List.mem_of_find?_eq_some found, List.find?_some found⟩
  · rintro ⟨held, hx⟩
    have some : (l.find? q).isSome := List.find?_isSome.mpr ⟨x, held, hx⟩
    obtain ⟨y, found⟩ := Option.isSome_iff_exists.mp some
    rw [found, unique y (List.mem_of_find?_eq_some found) x held (List.find?_some found) hx]

theorem exists_isFirst {α : Type} {p : α → Prop} {l : List α} (h : ∃ x ∈ l, p x) :
    ∃ x, IsFirst p l x := by
  classical
  have reflects (y) : decide (p y) = true ↔ p y := decide_eq_true_iff
  have some : (l.find? fun y => decide (p y)).isSome := by
    simpa only [List.find?_isSome, reflects] using h
  obtain ⟨x, found⟩ := Option.isSome_iff_exists.mp some
  exact ⟨x, (find?_eq_some_iff_isFirst reflects).mp found⟩

variable {α : Type} [BEq α] [LawfulBEq α] {l as bs : List α} {x : α}

theorem eraseDups_snoc [DecidableEq α] :
    (l ++ [x]).eraseDups = if x ∈ l then l.eraseDups else l.eraseDups ++ [x] := by
  rw [List.eraseDups_append]
  by_cases h : x ∈ l <;> simp [List.cons_removeAll, h, List.eraseDups_cons]

theorem nodup_eraseDups (l : List α) : l.eraseDups.Nodup := by
  classical
  induction l using List.reverseRecOn with
  | nil => exact List.nodup_nil
  | append_singleton l x ih =>
    rw [eraseDups_snoc]
    split
    · exact ih
    · rename_i h
      refine List.nodup_append.mpr ⟨ih, List.nodup_singleton x, ?_⟩
      intro a ha b hb hab
      have hb : b = x := List.mem_singleton.mp hb
      exact h (hb ▸ hab ▸ List.mem_eraseDups.mp ha)

theorem eraseDups_of_nodup (h : l.Nodup) : l.eraseDups = l := by
  classical
  induction l using List.reverseRecOn with
  | nil => rfl
  | append_singleton l x ih =>
    obtain ⟨hl, _, hx⟩ := List.nodup_append.mp h
    have fresh : x ∉ l := fun hmem => hx x hmem x (List.mem_singleton_self x) rfl
    rw [eraseDups_snoc, if_neg fresh, ih hl]

/-- Repetitions within a part are also repetitions within the whole. -/
theorem eraseDups_append_eraseDups :
    (as.eraseDups ++ bs.eraseDups).eraseDups = (as ++ bs).eraseDups := by
  classical
  induction bs using List.reverseRecOn with
  | nil =>
    rw [List.eraseDups_nil, List.append_nil, List.append_nil]
    exact eraseDups_of_nodup (nodup_eraseDups as)
  | append_singleton bs x ih =>
    by_cases h : x ∈ bs
    · have whole : x ∈ as ++ bs := List.mem_append_right as h
      rw [eraseDups_snoc, if_pos h, ih, ← List.append_assoc, eraseDups_snoc, if_pos whole]
    · rw [eraseDups_snoc, if_neg h, ← List.append_assoc, ← List.append_assoc, eraseDups_snoc,
        eraseDups_snoc, ih]
      simp

theorem eraseDups_append_left : (as.eraseDups ++ bs).eraseDups = (as ++ bs).eraseDups := by
  rw [← eraseDups_append_eraseDups, eraseDups_of_nodup (nodup_eraseDups as),
    eraseDups_append_eraseDups]

theorem eraseDups_append_of_subset (h : bs ⊆ as) : (as ++ bs).eraseDups = as.eraseDups := by
  have none : bs.removeAll as = [] := List.filter_eq_nil_iff.mpr fun x hx => by simp [h hx]
  rw [List.eraseDups_append, none, List.eraseDups_nil, List.append_nil]

theorem eraseDups_filter {p : α → Bool} : (l.filter p).eraseDups = l.eraseDups.filter p := by
  classical
  induction l using List.reverseRecOn with
  | nil => rfl
  | append_singleton l x ih =>
    rw [List.filter_append, eraseDups_snoc]
    by_cases hp : p x = true
    · rw [List.filter_cons_of_pos hp, List.filter_nil, eraseDups_snoc, ih]
      by_cases h : x ∈ l <;> simp [h, hp]
    · rw [List.filter_cons_of_neg hp, List.filter_nil, List.append_nil, ih]
      by_cases h : x ∈ l <;> simp [h, hp]

theorem eraseDups_map {β : Type} [BEq β] [LawfulBEq β] {f : α → β}
    (inj : ∀ x ∈ l, ∀ y ∈ l, f x = f y → x = y) : (l.map f).eraseDups = l.eraseDups.map f := by
  classical
  induction l using List.reverseRecOn with
  | nil => rfl
  | append_singleton l x ih =>
    have earlier := ih fun a ha b hb => inj a (by simp [ha]) b (by simp [hb])
    have mem : f x ∈ l.map f ↔ x ∈ l := by
      refine ⟨fun h => ?_, List.mem_map_of_mem⟩
      obtain ⟨y, hy, same⟩ := List.mem_map.mp h
      exact inj y (by simp [hy]) x (by simp) same ▸ hy
    rw [List.map_append, List.map_singleton, eraseDups_snoc, eraseDups_snoc, earlier]
    by_cases h : x ∈ l <;> simp [mem, h]

theorem pairwise_idxOf_eraseDups : l.eraseDups.Pairwise fun x y => l.idxOf x < l.idxOf y := by
  classical
  induction l using List.reverseRecOn with
  | nil => exact .nil
  | append_singleton l x ih =>
    have before : l.eraseDups.Pairwise fun a b => (l ++ [x]).idxOf a < (l ++ [x]).idxOf b := by
      refine ih.imp_of_mem fun ha hb lt => ?_
      rwa [List.idxOf_append_of_mem (List.mem_eraseDups.mp ha),
        List.idxOf_append_of_mem (List.mem_eraseDups.mp hb)]
    rw [eraseDups_snoc]
    split
    · exact before
    · rename_i fresh
      refine List.pairwise_append.mpr ⟨before, List.pairwise_singleton _ _, fun a ha b hb => ?_⟩
      have ha : a ∈ l := List.mem_eraseDups.mp ha
      rw [List.mem_singleton.mp hb, List.idxOf_append_of_mem ha, List.idxOf_append_of_notMem fresh]
      have := List.idxOf_lt_length_of_mem ha
      omega

omit [BEq α] [LawfulBEq α] in
/-- What stands in a list says what the list is, if its elements have an order of their own. -/
theorem eq_of_pairwise_place {place : α → Nat} (hl : as.Pairwise fun x y => place x < place y)
    (hl' : bs.Pairwise fun x y => place x < place y) (mem : ∀ x, x ∈ as ↔ x ∈ bs) : as = bs := by
  have nodup : ∀ l : List α, l.Pairwise (fun x y => place x < place y) → l.Nodup := by
    intro l h
    refine h.imp fun lt same => ?_
    rw [same] at lt
    exact Nat.lt_irrefl _ lt
  have perm : as.Perm bs := (List.perm_ext_iff_of_nodup (nodup as hl) (nodup bs hl')).mpr mem
  exact perm.eq_of_pairwise (fun x y _ _ lt gt => absurd gt (Nat.lt_asymm lt)) hl hl'

theorem pairwise_eraseDups_append :
    (as ++ bs).eraseDups.Pairwise fun x y => y ∈ as → x ∈ as := by
  rw [List.eraseDups_append]
  refine List.pairwise_append.mpr ⟨?_, ?_, fun x hx _ _ _ => List.mem_eraseDups.mp hx⟩
  · exact List.pairwise_of_forall_mem_list fun x hx _ _ _ => List.mem_eraseDups.mp hx
  · refine List.pairwise_of_forall_mem_list fun x _ y hy hmem => ?_
    have outside := (List.mem_filter.mp (List.mem_eraseDups.mp hy)).2
    simp [hmem] at outside

end PbxTemplates
