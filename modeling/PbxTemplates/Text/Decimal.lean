/-!
# Decimal numerals

The digits of a natural number without leading zeros, and the number that a run of digits denotes.

Main statements: `value_digits` and `read?_digits` say that written numbers read back.
-/

namespace PbxTemplates.Decimal

def digitChar (d : Nat) : Char := Char.ofNat (48 + d)

def digitValue (c : Char) : Nat := c.toNat - 48

/-- The decimal digits of a number, most significant first. -/
def digits (n : Nat) : List Char :=
  if n < 10 then [digitChar n] else digits (n / 10) ++ [digitChar (n % 10)]

def value (cs : List Char) : Nat := cs.foldl (fun n c => 10 * n + digitValue c) 0

/-- The number denoted by a text that consists of digits only and has at least one. -/
def read? (cs : List Char) : Option Nat :=
  if cs ≠ [] ∧ cs.all Char.isDigit then some (value cs) else none

def text (n : Nat) : String := String.ofList (digits n)

theorem digits_eq_toDigits (n : Nat) : digits n = Nat.toDigits 10 n := by
  have digit : ∀ d < 10, digitChar d = d.digitChar := by decide
  fun_induction digits n with
  | case1 n h => rw [Nat.toDigits_of_lt_base h, digit n h]
  | case2 n h ih =>
    rw [Nat.toDigits_of_base_le (by decide) (Nat.le_of_not_lt h), ih,
      digit _ (Nat.mod_lt _ (by decide))]

theorem text_eq_toString (n : Nat) : text n = toString n := by
  rw [text, digits_eq_toDigits]
  rfl

/-! ### Reading what was written -/

theorem digitValue_digitChar {d : Nat} (h : d < 10) : digitValue (digitChar d) = d := by
  have all : ∀ d, d < 10 → digitValue (digitChar d) = d := by decide
  exact all d h

theorem isDigit_digitChar {d : Nat} (h : d < 10) : (digitChar d).isDigit = true := by
  have all : ∀ d, d < 10 → (digitChar d).isDigit = true := by decide
  exact all d h

theorem value_append_singleton (cs : List Char) (c : Char) :
    value (cs ++ [c]) = 10 * value cs + digitValue c := by
  simp [value]

theorem value_digits (n : Nat) : value (digits n) = n := by
  fun_induction digits n with
  | case1 n h => simp [value, digitValue_digitChar h]
  | case2 n h ih =>
    rw [value_append_singleton, ih, digitValue_digitChar (by omega)]
    omega

theorem isDigit_of_mem_digits {n : Nat} {c : Char} (h : c ∈ digits n) : c.isDigit = true := by
  fun_induction digits n with
  | case1 n hn =>
    rw [List.mem_singleton.1 h]
    exact isDigit_digitChar hn
  | case2 n hn ih =>
    rcases List.mem_append.1 h with h | h
    · exact ih h
    · rw [List.mem_singleton.1 h]
      exact isDigit_digitChar (by omega)

theorem digits_ne_nil (n : Nat) : digits n ≠ [] := by
  rw [digits]
  split <;> simp

theorem head?_digits_ne_zero {n : Nat} (h : n ≠ 0) : (digits n).head? ≠ some '0' := by
  fun_induction digits n with
  | case1 n hn =>
    have all : ∀ d < 10, d ≠ 0 → [digitChar d].head? ≠ some '0' := by decide
    exact all n hn h
  | case2 n hn ih =>
    have first := ih (by omega)
    cases hd : digits (n / 10) with
    | nil => exact absurd hd (digits_ne_nil _)
    | cons c cs =>
      rw [hd] at first
      exact first

theorem read?_digits (n : Nat) : read? (digits n) = some n := by
  have all : (digits n).all Char.isDigit = true :=
    List.all_eq_true.2 fun _ h => isDigit_of_mem_digits h
  simp [read?, digits_ne_nil, value_digits, all]

end PbxTemplates.Decimal
