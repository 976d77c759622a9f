import PbxTemplates.Json.Printer
import PbxTemplates.Json.Reader
import PbxTemplates.Proofs.Text.Runs

/-!
# Printed values read back

A value that is printed in any layout of white space reads back as what it says, whatever follows it
(`reads_print`), as long as the numbers in it have 64 bits. Only a number can be extended by what
follows it; within a printed value it is followed by white space, a comma or a closing bracket.

The reader spends two units of fuel on a level of nesting, which has a bracket, and one on an item,
which has a comma before it. So twice the length of the text is always enough.
-/

namespace PbxTemplates.Json

/-! ### White space -/

def AllBlank (cs : List Char) : Prop := ∀ c ∈ cs, isBlank c = true

/-- The white space of a layout is that of the standard. -/
structure Layout.Blank (l : Layout) : Prop where
  lineBreak (depth : Nat) : AllBlank (l.lineBreak depth)
  gap : AllBlank l.gap

theorem Layout.blank_compact : compact.Blank where
  lineBreak _ _ h := by cases h
  gap _ h := by cases h

theorem Layout.blank_indented : indented.Blank where
  lineBreak depth c h := by
    rcases List.mem_cons.mp h with rfl | h
    · rfl
    · rw [(List.mem_replicate.mp h).2]
      rfl
  gap c h := by
    rw [List.mem_singleton.mp h]
    rfl

variable {blank cs rest : List Char} {c : Char} {fuel depth : Nat} {l : Layout} {j : Json}

theorem isBlank_iff : isBlank c = true ↔ c = ' ' ∨ c = '\t' ∨ c = '\n' ∨ c = '\r' := by
  simp [isBlank, or_assoc]

theorem skipBlank_append (h : AllBlank blank) : skipBlank (blank ++ cs) = skipBlank cs :=
  List.dropWhile_append_of_pos h

theorem skipBlank_cons (h : isBlank c = false) : skipBlank (c :: cs) = c :: cs :=
  List.dropWhile_cons_of_neg (by simp [h])

theorem readValue_blank (h : AllBlank blank) :
    readValue fuel (blank ++ cs) = readValue fuel cs := by
  cases fuel with
  | zero => rfl
  | succ fuel => rw [readValue, readValue, skipBlank_append h]

theorem readItems_blank (h : AllBlank blank) :
    readItems fuel (blank ++ cs) = readItems fuel cs := by
  cases fuel with
  | zero => rfl
  | succ fuel => rw [readItems, readItems, readValue_blank h]

theorem readMembers_blank (h : AllBlank blank) :
    readMembers fuel (blank ++ cs) = readMembers fuel cs := by
  have name : readName (blank ++ cs) = readName cs := by
    rw [readName, readName, skipBlank_append h]
  cases fuel with
  | zero => rfl
  | succ fuel => rw [readMembers, readMembers, name]

/-! ### Numbers -/

theorem ne_of_isDigit {x : Char} (h : c.isDigit = true) (hx : x.isDigit = false) : c ≠ x := by
  rintro rfl
  rw [h] at hx
  cases hx

theorem isBlank_eq_false_of_isDigit (h : c.isDigit = true) : isBlank c = false := by
  rw [Bool.eq_false_iff]
  intro blank
  rcases isBlank_iff.mp blank with rfl | rfl | rfl | rfl <;> cases h

theorem digits_eq_cons (n : Nat) : ∃ c cs, Decimal.digits n = c :: cs ∧ c.isDigit = true := by
  cases hd : Decimal.digits n with
  | nil => exact absurd hd (Decimal.digits_ne_nil n)
  | cons c cs =>
    exact ⟨c, cs, rfl, Decimal.isDigit_of_mem_digits (n := n) (hd ▸ List.mem_cons_self)⟩

/-- A number does not go on in what follows. -/
def EndsNumber (rest : List Char) : Prop :=
  ∀ c ∈ rest.head?, c.isDigit = false ∧ c ≠ '.' ∧ c ≠ 'e' ∧ c ≠ 'E'

theorem endsNumber_nil : EndsNumber [] := by
  intro c h
  cases h

theorem endsNumber_of_blank (h : AllBlank blank) (follow : EndsNumber rest) :
    EndsNumber (blank ++ rest) := by
  cases blank with
  | nil => exact follow
  | cons b blank =>
    intro c hc
    obtain rfl : b = c := by simpa using hc
    rcases isBlank_iff.mp (h b List.mem_cons_self) with rfl | rfl | rfl | rfl <;> decide

theorem readDigits_digits (n : Nat) (follow : EndsNumber rest) :
    readDigits (Decimal.digits n ++ rest) = some (Decimal.digits n, rest) := by
  have span : (Decimal.digits n ++ rest).span Char.isDigit = (Decimal.digits n, rest) :=
    span_append (fun _ => Decimal.isDigit_of_mem_digits) fun c hc => (follow c hc).1
  rw [readDigits, span]
  split
  · rename_i h
    exact absurd (Prod.mk.inj h).1 (Decimal.digits_ne_nil n)
  · rename_i h
    rw [h]

theorem readFraction_of_endsNumber (follow : EndsNumber rest) :
    readFraction rest = some ([], rest) := by
  rw [readFraction]
  rintro rest' rfl
  exact (follow '.' rfl).2.1 rfl

theorem readExponent_of_endsNumber (follow : EndsNumber rest) :
    readExponent rest = some (none, rest) := by
  rw [readExponent]
  · rintro rest' rfl
    exact (follow 'e' rfl).2.2.1 rfl
  · rintro rest' rfl
    exact (follow 'E' rfl).2.2.2 rfl

theorem readUnsigned_digits {n : Nat} (fits : Node.fitsWord n = true) (follow : EndsNumber rest) :
    readUnsigned false (Decimal.digits n ++ rest) = some (.int n, rest) := by
  have leading : ¬((Decimal.digits n).head? = some '0' ∧ (Decimal.digits n).length ≠ 1) := by
    rintro ⟨zero, long⟩
    by_cases h : n = 0
    · simp [h, Decimal.digits] at long
    · exact Decimal.head?_digits_ne_zero h zero
  have node : numberNode false (Decimal.digits n) [] none = .int n := by
    simp [numberNode, Decimal.value_digits, fits]
  simp [readUnsigned, readDigits_digits n follow, leading, readFraction_of_endsNumber follow,
    readExponent_of_endsNumber follow, node]

/-! ### Values -/

/-- The text is that of a value: wherever it stands, the reader finds the value and stops behind
it. -/
def Reads (cs : List Char) (n : Node) : Prop :=
  ∀ fuel rest, 2 * cs.length ≤ fuel → EndsNumber rest → readValue fuel (cs ++ rest) = (n, some rest)

theorem reads_of_scalar {n : Node} (blank : isBlank c = false)
    (other : c ≠ '"' ∧ c ≠ '[' ∧ c ≠ '{')
    (scalar : ∀ rest, EndsNumber rest → readScalar (c :: cs ++ rest) = (n, some rest)) :
    Reads (c :: cs) n := by
  intro fuel rest hfuel follow
  obtain ⟨text, list, table⟩ := other
  cases fuel with
  | zero => simp at hfuel
  | succ fuel =>
    rw [← scalar rest follow, List.cons_append, readValue, skipBlank_cons blank]
    split <;> simp_all

theorem reads_null : Reads (print l depth .null) .null := by
  have word : print l depth .null = ['n', 'u', 'l', 'l'] := by rw [print]; rfl
  rw [word]
  exact reads_of_scalar rfl (by decide) fun rest _ => by simp [readScalar]

theorem reads_bool (b : Bool) : Reads (print l depth (.bool b)) (.bool b) := by
  cases b with
  | true =>
    have word : print l depth (.bool true) = ['t', 'r', 'u', 'e'] := by rw [print]; rfl
    rw [word]
    exact reads_of_scalar rfl (by decide) fun rest _ => by simp [readScalar]
  | false =>
    have word : print l depth (.bool false) = ['f', 'a', 'l', 's', 'e'] := by rw [print]; rfl
    rw [word]
    exact reads_of_scalar rfl (by decide) fun rest _ => by simp [readScalar]

theorem reads_digits {n : Nat} (fits : Node.fitsWord n = true) :
    Reads (Decimal.digits n) (.int n) := by
  obtain ⟨c, cs, hd, digit⟩ := digits_eq_cons n
  have other : ∀ x : Char, x.isDigit = false → c ≠ x := fun x hx => ne_of_isDigit digit hx
  rw [hd]
  refine reads_of_scalar (isBlank_eq_false_of_isDigit digit) ⟨other _ rfl, other _ rfl, other _ rfl⟩
    fun rest follow => ?_
  have number : readNumber (c :: cs ++ rest) = some (.int n, rest) := by
    rw [← readUnsigned_digits fits follow, hd, readNumber]
    rintro rest' h
    exact other '-' rfl (List.cons.inj h).1
  rw [readScalar, number]
  all_goals
    intro rest' h
    exact other _ rfl (List.cons.inj h).1

theorem reads_quote (s : String) : Reads (quote s.toList) (.text s) := by
  intro fuel rest hfuel _
  cases fuel with
  | zero => simp [quote] at hfuel
  | succ fuel =>
    have blank : isBlank '"' = false := rfl
    simp [quote, readValue, skipBlank_cons blank, readText, readPieces_quote, joinPieces_map_char]

theorem reads_empty_list : Reads (print l depth (.arr [])) (.list []) := by
  have word : print l depth (.arr []) = ['[', ']'] := by rw [print]; rfl
  intro fuel rest hfuel _
  cases fuel with
  | zero => simp [word] at hfuel
  | succ fuel =>
    rw [word]
    simp [readValue, skipBlank_cons (c := '[') rfl, skipBlank_cons (c := ']') rfl]

theorem reads_empty_table : Reads (print l depth (.obj [])) (.table []) := by
  have word : print l depth (.obj []) = ['{', '}'] := by rw [print]; rfl
  intro fuel rest hfuel _
  cases fuel with
  | zero => simp [word] at hfuel
  | succ fuel =>
    rw [word]
    simp [readValue, skipBlank_cons (c := '{') rfl, skipBlank_cons (c := '}') rfl]

/-- A printed value begins with a character of its own, which is neither white space nor the end of
a list. -/
theorem print_eq_cons (l : Layout) (depth : Nat) (j : Json) :
    ∃ c cs, print l depth j = c :: cs ∧ isBlank c = false ∧ c ≠ ']' := by
  cases j with
  | null => exact ⟨_, _, rfl, rfl, by decide⟩
  | bool b => cases b <;> exact ⟨_, _, rfl, rfl, by decide⟩
  | num n =>
    obtain ⟨c, cs, hd, digit⟩ := digits_eq_cons n
    exact ⟨c, cs, hd, isBlank_eq_false_of_isDigit digit, ne_of_isDigit digit rfl⟩
  | str s => exact ⟨_, _, rfl, rfl, by decide⟩
  | arr items => cases items <;> exact ⟨_, _, rfl, rfl, by decide⟩
  | obj members => cases members <;> exact ⟨_, _, rfl, rfl, by decide⟩

/-! ### Lists and tables -/

/-- The text is that of the items of a list, with the closing bracket. -/
def ReadsItems (cs : List Char) (ns : List Node) : Prop :=
  ∀ fuel rest, 2 * cs.length + 1 ≤ fuel → readItems fuel (cs ++ rest) = (ns, some rest)

def ReadsMembers (cs : List Char) (ms : List (Option String × Node)) : Prop :=
  ∀ fuel rest, 2 * cs.length + 1 ≤ fuel → readMembers fuel (cs ++ rest) = (ms, some rest)

variable {first others : List Char} {name : String} {n : Node} {ns : List Node}
  {ms : List (Option String × Node)}

theorem endsNumber_cons (h : c = ',' ∨ c = ']' ∨ c = '}') : EndsNumber (c :: cs) := by
  intro d hd
  obtain rfl : c = d := by simpa using hd
  rcases h with rfl | rfl | rfl <;> decide

theorem readName_printName (name : String) :
    readName (printName l name ++ cs) = some (some name, some (l.gap ++ cs)) := by
  have blank : isBlank '"' = false := rfl
  have colon : isBlank ':' = false := rfl
  simp [readName, printName, quote, skipBlank_cons blank, skipBlank_cons colon, readPieces_quote,
    joinPieces_map_char]

theorem readsItems_last (hblank : AllBlank blank) (hfirst : Reads first n) :
    ReadsItems (first ++ (blank ++ [']'])) [n] := by
  intro fuel rest hfuel
  simp only [List.length_append, List.length_singleton] at hfuel
  cases fuel with
  | zero => omega
  | succ fuel =>
    have follow : EndsNumber (blank ++ ']' :: rest) :=
      endsNumber_of_blank hblank (endsNumber_cons (by decide))
    rw [List.append_assoc, List.append_assoc, List.singleton_append, readItems,
      hfirst fuel _ (by omega) follow]
    simp only [skipBlank_append hblank, skipBlank_cons (c := ']') rfl]

theorem readsItems_cons (hblank : AllBlank blank) (hfirst : Reads first n)
    (hothers : ReadsItems others ns) :
    ReadsItems (first ++ (',' :: (blank ++ others))) (n :: ns) := by
  intro fuel rest hfuel
  simp only [List.length_append, List.length_cons] at hfuel
  cases fuel with
  | zero => omega
  | succ fuel =>
    have follow : EndsNumber (',' :: (blank ++ (others ++ rest))) := endsNumber_cons (by decide)
    rw [List.append_assoc, List.cons_append, List.append_assoc, readItems,
      hfirst fuel _ (by omega) follow]
    simp only [skipBlank_cons (c := ',') rfl, readItems_blank hblank, hothers fuel rest (by omega),
      Prod.map_apply, id]

theorem readsMembers_last (hl : l.Blank) (hblank : AllBlank blank)
    (hfirst : Reads first n) :
    ReadsMembers (printName l name ++ (first ++ (blank ++ ['}']))) [(some name, n)] := by
  intro fuel rest hfuel
  simp only [List.length_append, List.length_singleton] at hfuel
  cases fuel with
  | zero => omega
  | succ fuel =>
    have follow : EndsNumber (blank ++ '}' :: rest) :=
      endsNumber_of_blank hblank (endsNumber_cons (by decide))
    rw [List.append_assoc, List.append_assoc, List.append_assoc, List.singleton_append, readMembers,
      readName_printName]
    simp only [readValue_blank hl.gap, hfirst fuel _ (by omega) follow, skipBlank_append hblank,
      skipBlank_cons (c := '}') rfl]

theorem readsMembers_cons (hl : l.Blank) (hblank : AllBlank blank)
    (hfirst : Reads first n) (hothers : ReadsMembers others ms) :
    ReadsMembers (printName l name ++ (first ++ (',' :: (blank ++ others))))
      ((some name, n) :: ms) := by
  intro fuel rest hfuel
  simp only [List.length_append, List.length_cons] at hfuel
  cases fuel with
  | zero => omega
  | succ fuel =>
    have follow : EndsNumber (',' :: (blank ++ (others ++ rest))) := endsNumber_cons (by decide)
    rw [List.append_assoc, List.append_assoc, List.cons_append, List.append_assoc, readMembers,
      readName_printName]
    simp only [readValue_blank hl.gap, hfirst fuel _ (by omega) follow,
      skipBlank_cons (c := ',') rfl, readMembers_blank hblank, hothers fuel rest (by omega),
      Prod.map_apply, id]

theorem reads_list (hblank : AllBlank blank) (hc : isBlank c = false ∧ c ≠ ']')
    (items : ReadsItems (c :: cs) ns) : Reads ('[' :: (blank ++ c :: cs)) (.list ns) := by
  intro fuel rest hfuel _
  simp only [List.length_append, List.length_cons] at hfuel
  cases fuel with
  | zero => omega
  | succ fuel =>
    have read := items fuel rest (by simp only [List.length_cons]; omega)
    rw [List.cons_append] at read
    rw [List.cons_append, List.append_assoc, List.cons_append, readValue, skipBlank_cons rfl]
    simp only [skipBlank_append hblank, skipBlank_cons hc.1]
    split
    · rename_i h
      exact absurd (List.cons.inj h).1 hc.2
    · rw [read]
      rfl

theorem reads_table (hblank : AllBlank blank)
    (members : ReadsMembers ('"' :: cs) ms) : Reads ('{' :: (blank ++ '"' :: cs)) (.table ms) := by
  intro fuel rest hfuel _
  simp only [List.length_append, List.length_cons] at hfuel
  cases fuel with
  | zero => omega
  | succ fuel =>
    have read := members fuel rest (by simp only [List.length_cons]; omega)
    rw [List.cons_append] at read
    rw [List.cons_append, List.append_assoc, List.cons_append, readValue, skipBlank_cons rfl]
    simp only [skipBlank_append hblank, skipBlank_cons (c := '"') rfl]
    exact congrArg (Prod.map Node.table id) read

/-! ### All values -/

mutual

/-- A printed value reads back as what it says. -/
theorem reads_print (hl : l.Blank) (j : Json) (depth : Nat) (h : j.toNode.readable none = true) :
    Reads (print l depth j) j.toNode := by
  cases j with
  | null => exact reads_null
  | bool b => exact reads_bool b
  | num n => exact reads_digits (by simpa [toNode, Node.readable] using h)
  | str s => exact reads_quote s
  | arr items =>
    cases items with
    | nil => exact reads_empty_list
    | cons j items =>
      obtain ⟨hj, hitems⟩ : j.toNode.readable none = true ∧
          Node.readableItems none (itemNodes items) = true := by
        simpa [toNode, itemNodes, Node.readable, Node.enter, Node.readableItems] using h
      have read := readsItems_print hl items depth _ _ hitems (reads_print hl j (depth + 1) hj)
      obtain ⟨c, cs, start, hc⟩ := print_eq_cons l (depth + 1) j
      rw [start, List.cons_append] at read
      simp only [print, start, List.cons_append, List.append_assoc]
      exact reads_list (hl.lineBreak _) hc read
  | obj members =>
    cases members with
    | nil => exact reads_empty_table
    | cons m members =>
      obtain ⟨name, j⟩ := m
      obtain ⟨hj, hmembers⟩ : j.toNode.readable none = true ∧
          Node.readableMembers none (memberNodes members) = true := by
        simpa [toNode, memberNodes, Node.readable, Node.enter, Node.readableMembers] using h
      have read := readsMembers_print hl members depth name _ _ hmembers
        (reads_print hl j (depth + 1) hj)
      simp only [printName, quote, List.cons_append, List.append_assoc] at read
      simp only [print, printName, quote, List.cons_append, List.append_assoc]
      exact reads_table (hl.lineBreak _) read

theorem readsItems_print (hl : l.Blank) (items : List Json) (depth : Nat) (first : List Char)
    (n : Node) (h : Node.readableItems none (itemNodes items) = true) (hfirst : Reads first n) :
    ReadsItems (first ++ printItems l depth items) (n :: itemNodes items) := by
  cases items with
  | nil => exact readsItems_last (hl.lineBreak depth) hfirst
  | cons j items =>
    obtain ⟨hj, hitems⟩ : j.toNode.readable none = true ∧
        Node.readableItems none (itemNodes items) = true := by
      simpa [itemNodes, Node.readableItems] using h
    have read := readsItems_print hl items depth _ _ hitems (reads_print hl j (depth + 1) hj)
    simp only [printItems, List.cons_append, List.append_assoc]
    exact readsItems_cons (hl.lineBreak _) hfirst read

theorem readsMembers_print (hl : l.Blank) (members : List (String × Json)) (depth : Nat)
    (name : String) (first : List Char) (n : Node)
    (h : Node.readableMembers none (memberNodes members) = true) (hfirst : Reads first n) :
    ReadsMembers (printName l name ++ (first ++ printMembers l depth members))
      ((some name, n) :: memberNodes members) := by
  cases members with
  | nil => exact readsMembers_last hl (hl.lineBreak depth) hfirst
  | cons m members =>
    obtain ⟨name', j⟩ := m
    obtain ⟨hj, hmembers⟩ : j.toNode.readable none = true ∧
        Node.readableMembers none (memberNodes members) = true := by
      simpa [memberNodes, Node.readableMembers] using h
    have read := readsMembers_print hl members depth name' _ _ hmembers
      (reads_print hl j (depth + 1) hj)
    simp only [printMembers, List.cons_append, List.append_assoc]
    exact readsMembers_cons hl (hl.lineBreak _) hfirst read

end

/-! ### Documents -/

theorem scan_text (hl : l.Blank) (h : j.toNode.readable none = true) :
    scan (text l j).toList = (j.toNode, some []) := by
  have enough : 2 * (print l 0 j).length ≤ Json.fuel (print l 0 j) := Nat.le_add_right _ 2
  have read := reads_print hl j 0 h _ [] enough endsNumber_nil
  rw [List.append_nil] at read
  rw [text, String.toList_ofList, scan, read]

/-- A document that is a printed value says what a reader makes of the value. -/
theorem decode_text {α : Type} {f : Form α} {a : α} (hl : l.Blank)
    (h : j.toNode.readable none = true) (read : f.read reading j.toNode = .ok a) :
    decode f (text l j) = .ok a := by
  rw [decode, scan_text hl h]
  simp only [read]
  rfl

end PbxTemplates.Json
