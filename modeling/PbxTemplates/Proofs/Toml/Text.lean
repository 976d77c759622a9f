import PbxTemplates.Toml.Text

/-!
# Quoted texts read back

A text has a reader for each of the ways to quote it. Within a text of several lines three marks in
a row would be its end, so a text is only written there if it has no such run or if the third mark
is escaped. Whatever characters it has, it reads back as itself, if no mark follows that could be
taken for a part of it (`readText?_quote`).
-/

namespace PbxTemplates.Toml

variable {c mark : Char} {cs e rest w : List Char} {lines : Bool} {n quotes : Nat}

/-! ### Runs of marks -/

/-- The length of the run that ends here and that of the longest one so far, after one more
character. -/
def countRun (c : Char) (s : Nat × Nat) (d : Char) : Nat × Nat :=
  let run := if d = c then s.1 + 1 else 0
  (run, max s.2 run)

theorem longestRun_eq (c : Char) (cs : List Char) :
    longestRun c cs = (cs.foldl (countRun c) (0, 0)).2 := rfl

theorem longest_le_foldl (c : Char) (cs : List Char) (s : Nat × Nat) :
    s.2 ≤ (cs.foldl (countRun c) s).2 := by
  induction cs generalizing s with
  | nil => exact Nat.le_refl _
  | cons d cs ih =>
    have step : s.2 ≤ (countRun c s d).2 := Nat.le_max_left _ _
    exact Nat.le_trans step (ih _)

theorem run_foldl_replicate (c : Char) (n : Nat) (s : Nat × Nat) :
    ((List.replicate n c).foldl (countRun c) s).1 = s.1 + n := by
  induction n generalizing s with
  | zero => rfl
  | succ n ih =>
    rw [List.replicate_succ, List.foldl_cons, ih]
    simp only [countRun, if_true]
    omega

theorem le_foldl_replicate (c : Char) (n : Nat) (s : Nat × Nat) :
    n ≤ ((List.replicate n c).foldl (countRun c) s).2 := by
  cases n with
  | zero => exact Nat.zero_le _
  | succ n =>
    have run := run_foldl_replicate c n s
    rw [List.replicate_succ', List.foldl_append, List.foldl_cons, List.foldl_nil]
    simp only [countRun, if_true, run]
    omega

theorem le_longestRun (h : List.replicate n c <:+: cs) : n ≤ longestRun c cs := by
  obtain ⟨before, after, rfl⟩ := h
  rw [longestRun_eq, List.foldl_append, List.foldl_append]
  exact Nat.le_trans (le_foldl_replicate c n _) (longest_le_foldl c after _)

theorem not_mem_of_longestRun_eq_zero (h : longestRun c cs = 0) : c ∉ cs := by
  intro hc
  obtain ⟨before, after, rfl⟩ := List.append_of_mem hc
  have run : 1 ≤ longestRun c (before ++ c :: after) := le_longestRun ⟨before, after, by simp⟩
  omega

/-- There are no three marks in a row. -/
def NoTriple (mark : Char) (cs : List Char) : Prop := ¬ tripled mark <:+: cs

theorem noTriple_of_longestRun_le (h : longestRun mark cs ≤ 2) : NoTriple mark cs := by
  intro triple
  have run : 3 ≤ longestRun mark cs := le_longestRun triple
  omega

theorem NoTriple.tail (h : NoTriple mark (c :: cs)) : NoTriple mark cs := fun triple =>
  h (triple.trans (List.suffix_cons c cs).isInfix)

/-! ### Escapes -/

theorem isPlain_of_not_needsEscape (h : needsEscape c = false) (newline : c ≠ '\n') :
    isPlain c = true := by
  simpa [needsEscape, newline] using h

/-- The characters are an escape of the character: a letter that stands for it, or its number. -/
inductive IsEscape (c : Char) : List Char → Prop
  | letter {d : Char} (known : unescape? d = some c) : IsEscape c ['\\', d]
  | number {a b : Char} (known : codePoint? ['0', '0', a, b] = some c) :
    IsEscape c ['\\', 'u', '0', '0', a, b]

theorem toNat_lt_of_needsEscape (h : needsEscape c = true) : c.toNat < 128 := by
  simp only [needsEscape, isPlain, Bool.and_eq_true, Bool.not_eq_true', Bool.or_eq_false_iff,
    Bool.and_eq_false_iff, decide_eq_false_iff_not] at h
  omega

theorem codePoint?_control (h : n < 128) :
    codePoint? ['0', '0', Hex.upper (n / 16), Hex.upper (n % 16)] = some (Char.ofNat n) := by
  have all : ∀ n < 128, codePoint? ['0', '0', Hex.upper (n / 16), Hex.upper (n % 16)]
      = some (Char.ofNat n) := by decide
  exact all n h

/-- Whether a character is escaped wherever it stands, but for quotes across lines. -/
def IsSpecial (c : Char) : Prop := c = '"' ∨ c = '\\' ∨ c = '\t' ∨ needsEscape c = true

theorem isEscape_escape (h : IsSpecial c) : IsEscape c (escape c) := by
  by_cases known : c = '\x08' ∨ c = '\t' ∨ c = '\x0c' ∨ c = '\r' ∨ c = '\\' ∨ c = '"'
  · rcases known with rfl | rfl | rfl | rfl | rfl | rfl
    all_goals exact .letter (by decide)
  · simp only [not_or] at known
    obtain ⟨backspace, tab, feed, carriage, backslash, quote⟩ := known
    have control : needsEscape c = true := by simpa [IsSpecial, quote, backslash, tab] using h
    have number := codePoint?_control (toNat_lt_of_needsEscape control)
    rw [Char.ofNat_toNat] at number
    simp only [escape, backspace, tab, feed, carriage, backslash, quote, if_false]
    exact .number number

theorem readBasic_escape (h : IsEscape c e) :
    readBasic (e ++ w) = push? (some c) (readBasic w) := by
  cases h with
  | number known => rw [← known]; rfl
  | @letter d known =>
    rw [← known]
    refine readBasic.eq_6 d w ?_ ?_ ?_
    all_goals
      intros
      subst d
      cases known

theorem atLineEnd_eq_false {d : Char} (known : unescape? d = some c) :
    atLineEnd (d :: w) = false := by
  have blank : isBlank d = false := by
    rw [Bool.eq_false_iff]
    intro blank
    simp only [isBlank, Bool.or_eq_true, decide_eq_true_eq] at blank
    rcases blank with rfl | rfl <;> cases known
  have inside : lineBreak? (d :: w) = none := by
    rw [lineBreak?]
    all_goals
      rintro rest h
      cases h
      cases known
  rw [atLineEnd, skipBlank, List.dropWhile_cons_of_neg (by simp [blank]), inside]
  rfl

theorem readBasicLines_escape (h : IsEscape c e) :
    readBasicLines false (e ++ w) = push? (some c) (readBasicLines false w) := by
  cases h with
  | number known => rw [← known]; rfl
  | @letter d known =>
    show readBasicLines false ('\\' :: d :: w) = _
    rw [readBasicLines.eq_6, atLineEnd_eq_false known, known]
    · rfl
    all_goals
      intros
      subst d
      cases known

/-! ### Within a line -/

theorem escapeAll_cons_special (h : IsSpecial c) (raw : ¬ (c = '"' ∧ lines = true ∧ quotes < 2)) :
    escapeAll lines quotes (c :: cs) = escape c ++ escapeAll lines 0 cs := by
  rw [escapeAll, if_neg raw]
  exact if_pos h

theorem escapeAll_cons_plain (h : ¬ IsSpecial c) :
    escapeAll lines quotes (c :: cs) = c :: escapeAll lines 0 cs := by
  have other : c ≠ '"' := fun quote => h (.inl quote)
  rw [escapeAll, if_neg (by simp [other])]
  exact if_neg h

theorem escapeAll_cons_quote (h : quotes < 2) :
    escapeAll true quotes ('"' :: cs) = '"' :: escapeAll true (quotes + 1) cs := by
  rw [escapeAll, if_pos ⟨rfl, rfl, h⟩]

theorem isPlain_of_not_isSpecial (h : ¬ IsSpecial c) (newline : c ≠ '\n') : isPlain c = true := by
  simp only [IsSpecial, not_or, Bool.not_eq_true] at h
  exact isPlain_of_not_needsEscape h.2.2.2 newline

theorem readBasic_plain (plain : isPlain c = true) (quote : c ≠ '"') (backslash : c ≠ '\\') :
    readBasic (c :: w) = push? (some c) (readBasic w) := by
  rw [readBasic, if_pos ⟨plain, backslash⟩]
  all_goals simp_all

theorem readBasic_escapeAll (h : '\n' ∉ cs) (quotes : Nat) (rest : List Char) :
    readBasic (escapeAll false quotes cs ++ '"' :: rest) = some (cs, rest) := by
  induction cs generalizing quotes with
  | nil => rfl
  | cons c cs ih =>
    obtain ⟨newline, h⟩ := List.ne_and_not_mem_of_not_mem_cons h
    by_cases special : IsSpecial c
    · rw [escapeAll_cons_special special (by simp), List.append_assoc,
        readBasic_escape (isEscape_escape special), ih h]
      rfl
    · have plain := isPlain_of_not_isSpecial special newline.symm
      simp only [IsSpecial, not_or] at special
      rw [escapeAll_cons_plain (by simpa [IsSpecial] using special), List.cons_append,
        readBasic_plain plain special.1 special.2.1, ih h]
      rfl

theorem readLiteral_append (h : '\n' ∉ cs) (marks : '\'' ∉ cs)
    (control : ∀ c ∈ cs, needsEscape c = false) (rest : List Char) :
    readLiteral (cs ++ '\'' :: rest) = some (cs, rest) := by
  induction cs with
  | nil => rfl
  | cons c cs ih =>
    obtain ⟨newline, h⟩ := List.ne_and_not_mem_of_not_mem_cons h
    obtain ⟨mark, marks⟩ := List.ne_and_not_mem_of_not_mem_cons marks
    have plain := isPlain_of_not_needsEscape (control c List.mem_cons_self) newline.symm
    rw [List.cons_append, readLiteral, if_pos plain,
      ih h marks fun d hd => control d (List.mem_cons_of_mem _ hd)]
    · rfl
    · exact mark.symm

/-! ### Across lines -/

theorem closeLines_of_head (h : rest.head? ≠ some mark) : closeLines mark rest = ([], rest) := by
  cases rest with
  | nil => rfl
  | cons c rest =>
    have other : c ≠ mark := fun same => h (congrArg some same)
    simp [closeLines, other]

theorem closeLines_one (h : rest.head? ≠ some mark) :
    closeLines mark (mark :: rest) = ([mark], rest) := by
  cases rest with
  | nil => simp [closeLines]
  | cons c rest =>
    have other : c ≠ mark := fun same => h (congrArg some same)
    simp [closeLines, other]

theorem closeLines_two : closeLines mark (mark :: mark :: rest) = ([mark, mark], rest) := by
  simp [closeLines]

/-- Two marks at the beginning of what is still to be read are the end of the text or part of it. -/
theorem cases_of_two_marks {r : List Char} (runs : NoTriple mark (mark :: cs))
    (h : cs ++ tripled mark ++ rest = mark :: mark :: r) : cs = [] ∨ cs = [mark] := by
  match cs with
  | [] => exact .inl rfl
  | [d] =>
    have first := (List.cons.inj h).1
    exact .inr (by rw [first])
  | d :: d' :: cs =>
    obtain ⟨first, h⟩ := List.cons.inj h
    obtain ⟨second, -⟩ := List.cons.inj h
    exact absurd ⟨[], cs, by simp [tripled, first, second]⟩ runs

theorem readLiteralLines_append (runs : NoTriple '\'' cs)
    (control : ∀ c ∈ cs, needsEscape c = false) (follow : rest.head? ≠ some '\'') :
    readLiteralLines (cs ++ tripled '\'' ++ rest) = some (cs, rest) := by
  induction cs with
  | nil =>
    show readLiteralLines ('\'' :: '\'' :: '\'' :: rest) = _
    rw [readLiteralLines, closeLines_of_head follow]
  | cons c cs ih =>
    have plain : isPlain c = true ∨ c = '\n' := by
      by_cases newline : c = '\n'
      · exact .inr newline
      · exact .inl (isPlain_of_not_needsEscape (control c List.mem_cons_self) newline)
    have carriage : c ≠ '\r' := by
      rintro rfl
      exact absurd (control '\r' List.mem_cons_self) (by decide)
    have tail := ih runs.tail fun d hd => control d (List.mem_cons_of_mem _ hd)
    by_cases ends : c = '\'' ∧ (cs = [] ∨ cs = ['\''])
    · -- what is left of the text stands within the closing marks
      obtain ⟨rfl, rfl | rfl⟩ := ends
      · show readLiteralLines ('\'' :: '\'' :: '\'' :: '\'' :: rest) = _
        rw [readLiteralLines, closeLines_one follow]
      · show readLiteralLines ('\'' :: '\'' :: '\'' :: '\'' :: '\'' :: rest) = _
        rw [readLiteralLines, closeLines_two]
    · rw [List.cons_append, List.cons_append, readLiteralLines, if_pos plain, tail]
      · rfl
      · rintro r rfl h
        exact ends ⟨rfl, cases_of_two_marks runs h⟩
      · rintro r rfl
        exact absurd rfl carriage

/-- A quote at the beginning of a text with its escapes is one that stands for itself. Neither a
carriage return nor a line feed that is not in the text stands there. -/
theorem exists_escapeAll_cons (lines : Bool) (quotes : Nat) (c : Char) (cs : List Char) :
    ∃ d w, escapeAll lines quotes (c :: cs) = d :: w ∧ d ≠ '\r' ∧ (d = '\n' → c = '\n') ∧
      (d = '"' → c = '"' ∧ lines = true ∧ quotes < 2 ∧ w = escapeAll lines (quotes + 1) cs) := by
  by_cases raw : c = '"' ∧ lines = true ∧ quotes < 2
  · obtain ⟨rfl, rfl, few⟩ := raw
    exact ⟨'"', _, escapeAll_cons_quote few, by decide, by decide, fun _ => ⟨rfl, rfl, few, rfl⟩⟩
  by_cases special : IsSpecial c
  · rw [escapeAll_cons_special special raw]
    generalize he : escape c = e
    have h : IsEscape c e := he ▸ isEscape_escape special
    cases h
    all_goals
      refine ⟨'\\', _, rfl, by decide, fun h => absurd h (by decide), fun h => absurd h (by decide)⟩
  · refine ⟨c, _, escapeAll_cons_plain special, ?_, id, fun quote => absurd (.inl quote) special⟩
    rintro rfl
    exact special (.inr (.inr (.inr (by decide))))

theorem cases_of_two_quotes {r : List Char}
    (h : escapeAll true (quotes + 1) cs ++ tripled '"' ++ rest = '"' :: '"' :: r) :
    cs = [] ∨ cs = ['"'] ∧ quotes = 0 := by
  match cs with
  | [] => exact .inl rfl
  | c :: cs =>
    obtain ⟨d, w, first, -, -, quote⟩ := exists_escapeAll_cons true (quotes + 1) c cs
    rw [first] at h
    obtain ⟨rfl, -, few, rfl⟩ := quote (List.cons.inj h).1
    match cs with
    | [] => exact .inr ⟨rfl, by omega⟩
    | c :: cs =>
      obtain ⟨d, w, second, -, -, quote⟩ := exists_escapeAll_cons true (quotes + 1 + 1) c cs
      rw [second] at h
      obtain ⟨-, -, few', -⟩ := quote (List.cons.inj (List.cons.inj h).2).1
      omega

theorem readBasicLines_plain (plain : isPlain c = true ∨ c = '\n') (backslash : c ≠ '\\')
    (carriage : c ≠ '\r') (inside : ∀ r, c = '"' → w ≠ '"' :: '"' :: r) :
    readBasicLines false (c :: w) = push? (some c) (readBasicLines false w) := by
  have here : isPlain c = true ∧ c ≠ '\\' ∨ c = '\n' := plain.imp_left fun h => ⟨h, backslash⟩
  rw [readBasicLines, if_neg (by simp), if_pos here]
  all_goals simp_all

theorem readBasicLines_escapeAll (quotes : Nat) (follow : rest.head? ≠ some '"') :
    readBasicLines false (escapeAll true quotes cs ++ tripled '"' ++ rest) = some (cs, rest) := by
  induction cs generalizing quotes with
  | nil =>
    show readBasicLines false ('"' :: '"' :: '"' :: rest) = _
    rw [readBasicLines, closeLines_of_head follow]
  | cons c cs ih =>
    by_cases raw : c = '"' ∧ quotes < 2
    · obtain ⟨rfl, few⟩ := raw
      by_cases ends : cs = [] ∨ cs = ['"'] ∧ quotes = 0
      · -- what is left of the text stands within the closing quotes
        obtain rfl | ⟨rfl, rfl⟩ := ends
        · rw [escapeAll_cons_quote few]
          show readBasicLines false ('"' :: '"' :: '"' :: '"' :: rest) = _
          rw [readBasicLines, closeLines_one follow]
        · show readBasicLines false ('"' :: '"' :: '"' :: '"' :: '"' :: rest) = _
          rw [readBasicLines, closeLines_two]
      · rw [escapeAll_cons_quote few, List.cons_append, List.cons_append,
          readBasicLines_plain (.inl rfl) (by decide) (by decide), ih]
        · rfl
        · intro r _ h
          exact ends (cases_of_two_quotes h)
    by_cases special : IsSpecial c
    · rw [escapeAll_cons_special special fun h => raw ⟨h.1, h.2.2⟩, List.append_assoc,
        List.append_assoc, readBasicLines_escape (isEscape_escape special), ← List.append_assoc, ih]
      rfl
    · have plain : isPlain c = true ∨ c = '\n' := by
        by_cases newline : c = '\n'
        · exact .inr newline
        · exact .inl (isPlain_of_not_isSpecial special newline)
      have carriage : c ≠ '\r' := by
        rintro rfl
        exact special (.inr (.inr (.inr (by decide))))
      have other := special
      simp only [IsSpecial, not_or] at other
      rw [escapeAll_cons_plain special, List.cons_append, List.cons_append,
        readBasicLines_plain plain other.2.1 carriage fun _ quote => absurd quote other.1, ih]
      rfl

/-! ### Every text -/

theorem readText?_basic (h : ∀ r, w ≠ '"' :: '"' :: r) :
    readText? ('"' :: w) = some (readBasic w) := by
  rw [readText?]
  · rfl
  · rintro r same
    exact h r (List.cons.inj same).2
  · rintro _ same
    exact absurd (List.cons.inj same).1 (by decide)

theorem readText?_literal (h : ∀ r, w ≠ '\'' :: '\'' :: r) :
    readText? ('\'' :: w) = some (readLiteral w) := by
  rw [readText?]
  · rfl
  · rintro _ same
    exact absurd (List.cons.inj same).1 (by decide)
  · rintro r same
    exact h r (List.cons.inj same).2

theorem skipFirstBreak_append (lines : Bool)
    (h : lines = false → ∀ c ∈ w.head?, c ≠ '\n' ∧ c ≠ '\r') :
    skipFirstBreak ((if lines then ['\n'] else []) ++ w) = w := by
  cases lines with
  | true => rfl
  | false =>
    show skipFirstBreak w = w
    cases w with
    | nil => rfl
    | cons c w =>
      obtain ⟨newline, carriage⟩ := h rfl c rfl
      rw [skipFirstBreak, lineBreak?]
      · rfl
      all_goals
        rintro r same
        simp_all

theorem readText?_escapeAll (newline : '\n' ∉ cs) (follow : rest.head? ≠ some '"') :
    readText? ('"' :: escapeAll false 0 cs ++ ['"'] ++ rest) = some (some (cs, rest)) := by
  have shape : '"' :: escapeAll false 0 cs ++ ['"'] ++ rest
      = '"' :: (escapeAll false 0 cs ++ '"' :: rest) := by simp
  rw [shape, readText?_basic, readBasic_escapeAll newline 0 rest]
  intro r same
  cases cs with
  | nil => exact follow (by rw [(List.cons.inj same).2]; rfl)
  | cons c cs =>
    obtain ⟨d, w, first, -, -, quote⟩ := exists_escapeAll_cons false 0 c cs
    rw [first] at same
    exact absurd (quote (List.cons.inj same).1).2.1 (by decide)

theorem readText?_literal_append (newline : '\n' ∉ cs) (marks : '\'' ∉ cs)
    (control : ∀ c ∈ cs, needsEscape c = false) (follow : rest.head? ≠ some '\'') :
    readText? ('\'' :: cs ++ ['\''] ++ rest) = some (some (cs, rest)) := by
  have shape : '\'' :: cs ++ ['\''] ++ rest = '\'' :: (cs ++ '\'' :: rest) := by simp
  rw [shape, readText?_literal, readLiteral_append newline marks control rest]
  intro r same
  cases cs with
  | nil => exact follow (by rw [(List.cons.inj same).2]; rfl)
  | cons c cs => exact marks ((List.cons.inj same).1 ▸ List.mem_cons_self)

theorem readText?_escapeAll_lines (h : lines = false → '\n' ∉ cs)
    (follow : rest.head? ≠ some '"') :
    readText? (quoteLines '"' lines (escapeAll true 0 cs) ++ rest) = some (some (cs, rest)) := by
  have shape : quoteLines '"' lines (escapeAll true 0 cs) ++ rest = '"' :: '"' :: '"' ::
      ((if lines then ['\n'] else []) ++ (escapeAll true 0 cs ++ tripled '"' ++ rest)) := by
    simp [quoteLines, tripled]
  rw [shape, readText?, skipFirstBreak_append, readBasicLines_escapeAll 0 follow]
  intro single c first
  cases cs with
  | nil =>
    obtain rfl : '"' = c := Option.some.inj first
    decide
  | cons d cs =>
    obtain ⟨e, w, start, carriage, newline, -⟩ := exists_escapeAll_cons true 0 d cs
    rw [start] at first
    obtain rfl : e = c := Option.some.inj first
    exact ⟨fun same => h single (newline same ▸ List.mem_cons_self), carriage⟩

theorem readText?_quoteLines (h : lines = false → '\n' ∉ cs) (runs : NoTriple '\'' cs)
    (control : ∀ c ∈ cs, needsEscape c = false) (follow : rest.head? ≠ some '\'') :
    readText? (quoteLines '\'' lines cs ++ rest) = some (some (cs, rest)) := by
  have shape : quoteLines '\'' lines cs ++ rest = '\'' :: '\'' :: '\'' ::
      ((if lines then ['\n'] else []) ++ (cs ++ tripled '\'' ++ rest)) := by
    simp [quoteLines, tripled]
  rw [shape, readText?, skipFirstBreak_append, readLiteralLines_append runs control follow]
  intro single c first
  cases cs with
  | nil =>
    obtain rfl : '\'' = c := Option.some.inj first
    decide
  | cons d cs =>
    obtain rfl : d = c := Option.some.inj first
    refine ⟨fun same => h single (same ▸ List.mem_cons_self), ?_⟩
    rintro rfl
    exact absurd (control _ List.mem_cons_self) (by decide)

theorem exists_quote_eq (cs : List Char) :
    ∃ mark w, quote cs = mark :: w ∧ (mark = '"' ∨ mark = '\'') := by
  simp only [quote, quoteLines, tripled]
  split
  · exact ⟨'"', _, rfl, .inl rfl⟩
  split
  · exact ⟨'\'', _, rfl, .inr rfl⟩
  split
  · exact ⟨'"', _, rfl, .inl rfl⟩
  split
  · exact ⟨'\'', _, rfl, .inr rfl⟩
  split
  all_goals exact ⟨'"', _, rfl, .inl rfl⟩

/-- A quoted text reads back as itself, up to the mark that closes it. -/
theorem readText?_quote (quotes : rest.head? ≠ some '"') (apostrophes : rest.head? ≠ some '\'') :
    readText? (quote cs ++ rest) = some (some (cs, rest)) := by
  have newline : cs.contains '\n' = false → '\n' ∉ cs := by simp
  have control : cs.any needsEscape = false → ∀ c ∈ cs, needsEscape c = false := by simp
  simp only [quote]
  split
  case isTrue h =>
    simp only [Bool.and_eq_true, Bool.not_eq_true'] at h
    exact readText?_escapeAll (newline h.2) quotes
  split
  case isTrue h =>
    simp only [Bool.and_eq_true, Bool.not_eq_true', decide_eq_true_eq] at h
    exact readText?_literal_append (newline h.2) (not_mem_of_longestRun_eq_zero h.1.2)
      (control h.1.1) apostrophes
  split
  case isTrue =>
    exact readText?_escapeAll_lines newline quotes
  split
  case isTrue h =>
    simp only [Bool.and_eq_true, Bool.not_eq_true', decide_eq_true_eq] at h
    exact readText?_quoteLines newline (noTriple_of_longestRun_le h.2) (control h.1) apostrophes
  split
  case isTrue =>
    exact readText?_escapeAll_lines nofun quotes
  case isFalse h =>
    exact readText?_escapeAll (newline (Bool.eq_false_iff.mpr h)) quotes

example : readText? (quote "'''\r\n\"".toList ++ ['\n'])
    = some (some ("'''\r\n\"".toList, ['\n'])) := by decide

end PbxTemplates.Toml
