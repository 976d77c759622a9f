import PbxTemplates.Json.Printer

/-!
# Compact texts stand on one line

A quoted text escapes all control characters, and the compact layout has no white space. So the
compact text of a value has no control character and in particular no line break, whatever texts
occur in the value (`noControl_print`).
-/

namespace PbxTemplates.Json

/-- The text has no control character of ASCII: no line feed, no carriage return, no tab. -/
def NoControl (cs : List Char) : Prop := ∀ c ∈ cs, 32 ≤ c.toNat

variable {cs ds : List Char} {c : Char}

@[simp] theorem noControl_nil : NoControl [] := by simp [NoControl]

@[simp] theorem noControl_cons : NoControl (c :: cs) ↔ 32 ≤ c.toNat ∧ NoControl cs := by
  simp [NoControl]

@[simp] theorem noControl_append : NoControl (cs ++ ds) ↔ NoControl cs ∧ NoControl ds := by
  simp [NoControl, or_imp, forall_and]

theorem noControl_hex {n : Nat} (h : n < 32) :
    NoControl ['\\', 'u', '0', '0', Hex.lower (n / 16), Hex.lower (n % 16)] := by
  have digit : ∀ d < 16, 32 ≤ (Hex.lower d).toNat := by decide
  have high : n / 16 < 16 := by omega
  have low : n % 16 < 16 := by omega
  simp [digit _ high, digit _ low]

theorem noControl_escape (c : Char) : NoControl (escape c) := by
  by_cases h : c = '"' ∨ c = '\\' ∨ c = '\n' ∨ c = '\r' ∨ c = '\t' ∨ c = '\x08' ∨ c = '\x0c'
  · rcases h with rfl | rfl | rfl | rfl | rfl | rfl | rfl <;> simp [escape]
  · simp only [not_or] at h
    obtain ⟨hq, hb, hn, hr, ht, hbs, hff⟩ := h
    simp only [escape, hq, hb, hn, hr, ht, hbs, hff, if_false]
    split
    · rename_i hc
      exact noControl_hex hc
    · rename_i hc
      simpa using hc

theorem noControl_quote (cs : List Char) : NoControl (quote cs) := by
  have escaped : NoControl (cs.flatMap escape) := by
    intro c hc
    obtain ⟨d, _, hd⟩ := List.mem_flatMap.mp hc
    exact noControl_escape d c hd
  simp only [quote, List.cons_append, noControl_cons, noControl_append, noControl_nil]
  exact ⟨by decide, escaped, by decide, trivial⟩

theorem noControl_digits (n : Nat) : NoControl (Decimal.digits n) := by
  intro c hc
  have digit : '0'.toNat ≤ c.toNat := by
    have := Decimal.isDigit_of_mem_digits hc
    simp only [Char.isDigit, Bool.and_eq_true, decide_eq_true_eq] at this
    exact UInt32.le_iff_toNat_le.mp this.1
  exact Nat.le_trans (by decide) digit

/-! ### Values -/

@[simp] theorem Layout.lineBreak_compact (depth : Nat) : compact.lineBreak depth = [] := rfl

@[simp] theorem Layout.gap_compact : compact.gap = [] := rfl

theorem noControl_printName (name : String) : NoControl (printName .compact name) := by
  simp [printName, noControl_quote]

mutual

theorem noControl_print (j : Json) (depth : Nat) : NoControl (print .compact depth j) := by
  cases j with
  | null => simp [print]
  | bool b => cases b <;> simp [print]
  | num n => exact noControl_digits n
  | str s => exact noControl_quote s.toList
  | arr items =>
    cases items with
    | nil => simp [print]
    | cons j items =>
      have first := noControl_print j (depth + 1)
      have rest := noControl_printItems items depth
      simp [print, first, rest]
  | obj members =>
    cases members with
    | nil => simp [print]
    | cons m members =>
      obtain ⟨name, j⟩ := m
      have first := noControl_print j (depth + 1)
      have rest := noControl_printMembers members depth
      simp [print, noControl_printName, first, rest]

theorem noControl_printItems (items : List Json) (depth : Nat) :
    NoControl (printItems .compact depth items) := by
  cases items with
  | nil => simp [printItems]
  | cons j items =>
    have first := noControl_print j (depth + 1)
    have rest := noControl_printItems items depth
    simp [printItems, first, rest]

theorem noControl_printMembers (members : List (String × Json)) (depth : Nat) :
    NoControl (printMembers .compact depth members) := by
  cases members with
  | nil => simp [printMembers]
  | cons m members =>
    obtain ⟨name, j⟩ := m
    have first := noControl_print j (depth + 1)
    have rest := noControl_printMembers members depth
    simp [printMembers, noControl_printName, first, rest]

end

end PbxTemplates.Json
