import Mathlib.Data.List.Forall2

/-!
# Steps in turn

A step that may fail is taken for each element of a list in turn (`List.mapM`), and the first
failure ends all. These lemmas say when all steps succeed, what they then give, and which error
stays otherwise.
-/

namespace PbxTemplates

universe u v w v'

variable {γ : Type u} {δ : Type v} {ε : Type w} {g g' : γ → Except ε δ} {x : γ} {y : δ} {l : List γ}

theorem mapM_cons_of_ok (hx : g x = .ok y) : (x :: l).mapM g = (l.mapM g).map (y :: ·) := by
  rw [List.mapM_cons, hx]
  cases l.mapM g <;> rfl

theorem mapM_cons_of_error {err : ε} (hx : g x = .error err) : (x :: l).mapM g = .error err := by
  rw [List.mapM_cons, hx]
  rfl

theorem mapM_eq_ok_iff {ys : List δ} :
    l.mapM g = .ok ys ↔ List.Forall₂ (fun x y => g x = .ok y) l ys := by
  induction l generalizing ys with
  | nil => cases ys <;> simp [pure, Except.pure]
  | cons x l ih =>
    cases hx : g x with
    | error err =>
      rw [mapM_cons_of_error hx]
      cases ys <;> simp [hx]
    | ok y =>
      rw [mapM_cons_of_ok hx]
      cases hl : l.mapM g with
      | error err =>
        have none : ∀ ys, ¬ List.Forall₂ (fun x y => g x = .ok y) l ys := by
          intro ys h
          simpa [hl] using ih.mpr h
        cases ys <;> simp [Except.map, none]
      | ok ys' =>
        have some : ∀ ys, List.Forall₂ (fun x y => g x = .ok y) l ys ↔ ys' = ys := by
          intro ys
          rw [← ih, hl, Except.ok.injEq]
        cases ys <;> simp [Except.map, hx, some]

theorem mapM_isOk_iff : (∃ ys, l.mapM g = .ok ys) ↔ ∀ x ∈ l, ∃ y, g x = .ok y := by
  induction l with
  | nil => simp [pure, Except.pure]
  | cons x l ih =>
    rw [List.forall_mem_cons, ← ih]
    cases hx : g x with
    | error err => simp [mapM_cons_of_error hx]
    | ok y =>
      rw [mapM_cons_of_ok hx]
      cases l.mapM g <;> simp [Except.map]

/-- The error is that of the first element that has one. -/
theorem mapM_eq_error_iff {err : ε} : l.mapM g = .error err ↔
    ∃ (i : Nat) (x : γ), l[i]? = some x ∧ g x = .error err ∧
      ∀ j < i, ∀ y, l[j]? = some y → ∃ z, g y = .ok z := by
  induction l with
  | nil => simp [pure, Except.pure]
  | cons x l ih =>
    cases hx : g x with
    | error err' =>
      rw [mapM_cons_of_error hx]
      constructor
      · rintro ⟨⟩
        exact ⟨0, x, rfl, hx, by simp⟩
      · rintro ⟨i, y, hy, fails, before⟩
        cases i with
        | zero =>
          obtain rfl : x = y := by simpa using hy
          rw [Except.error.inj (hx.symm.trans fails)]
        | succ i =>
          obtain ⟨z, hz⟩ := before 0 i.succ_pos x rfl
          rw [hx] at hz
          cases hz
    | ok z =>
      have tail : (x :: l).mapM g = .error err ↔ l.mapM g = .error err := by
        rw [mapM_cons_of_ok hx]
        cases l.mapM g <;> simp [Except.map]
      rw [tail, ih]
      -- each place moves by one, and the first element does not fail
      constructor
      · rintro ⟨i, y, hy, fails, before⟩
        refine ⟨i + 1, y, hy, fails, fun j hj b hb => ?_⟩
        cases j with
        | zero =>
          obtain rfl : x = b := by simpa using hb
          exact ⟨z, hx⟩
        | succ j => exact before j (Nat.lt_of_succ_lt_succ hj) b hb
      · rintro ⟨i, y, hy, fails, before⟩
        cases i with
        | zero =>
          obtain rfl : x = y := by simpa using hy
          rw [hx] at fails
          cases fails
        | succ i =>
          exact ⟨i, y, hy, fails, fun j hj b hb => before (j + 1) (Nat.succ_lt_succ hj) b hb⟩

theorem mapM_congr (h : ∀ x ∈ l, g x = g' x) : l.mapM g = l.mapM g' := by
  induction l with
  | nil => rfl
  | cons x l ih =>
    rw [List.mapM_cons, List.mapM_cons, h x List.mem_cons_self,
      ih fun y hy => h y (List.mem_cons_of_mem x hy)]

theorem mapM_map_ok {δ' : Type v'} (k : δ → δ') :
    (l.mapM g).map (List.map k) = l.mapM fun x => (g x).map k := by
  induction l with
  | nil => rfl
  | cons x l ih =>
    cases hx : g x with
    | error err =>
      have hk : (g x).map k = .error err := congrArg (Except.map k) hx
      rw [mapM_cons_of_error hx, mapM_cons_of_error (g := fun x => (g x).map k) hk]
      rfl
    | ok y =>
      have hk : (g x).map k = .ok (k y) := congrArg (Except.map k) hx
      rw [mapM_cons_of_ok hx, mapM_cons_of_ok (g := fun x => (g x).map k) hk, ← ih]
      cases l.mapM g <;> rfl

end PbxTemplates
