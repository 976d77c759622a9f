import PbxTemplates.Proofs.Text.Runs
import PbxTemplates.Proofs.Toml.Text
import PbxTemplates.Toml.Reader

/-!
# Statements read back

A header reads as its name, and an assignment as its name and its value. A document that is written
as a sequence of lines is read one statement after the other.
-/

namespace PbxTemplates.Toml

variable {c : Char} {cs name rest v w : List Char} {fuel room : Nat} {n : Node}

/-! ### White space -/

theorem skipGap_cons (blank : isBlank c = false) (newline : c ≠ '\n') (carriage : c ≠ '\r')
    (comment : c ≠ '#') : skipGap false (c :: w) = c :: w := by
  rw [skipGap, if_neg newline, if_neg (by decide), if_neg comment, if_neg (by simp [blank])]
  rintro r rfl
  exact absurd rfl carriage

theorem skipBlank_of_head (h : ∀ c ∈ w.head?, isBlank c = false) : skipBlank w = w := by
  cases w with
  | nil => rfl
  | cons c w => exact List.dropWhile_cons_of_neg (by simp [h c rfl])

/-! ### Keys -/

/-- Whether characters are a key that needs no quotes. -/
def isBareName (name : List Char) : Bool := !name.isEmpty && name.all isBare

theorem isBare_of_mem (h : isBareName name = true) (hc : c ∈ name) : isBare c = true := by
  simp only [isBareName, Bool.and_eq_true, List.all_eq_true] at h
  exact h.2 c hc

theorem exists_cons_of_isBareName (h : isBareName name = true) :
    ∃ c w, name = c :: w ∧ isBare c = true := by
  cases name with
  | nil => cases h
  | cons c w => exact ⟨c, w, rfl, isBare_of_mem h List.mem_cons_self⟩

theorem isBlank_of_isBare (h : isBare c = true) : isBlank c = false := by
  rw [Bool.eq_false_iff]
  intro blank
  simp only [isBlank, Bool.or_eq_true, decide_eq_true_eq] at blank
  rcases blank with rfl | rfl <;> exact absurd h (by decide)

theorem skipBlank_append_of_isBareName (h : isBareName name = true) (w : List Char) :
    skipBlank (name ++ w) = name ++ w := by
  obtain ⟨c, name, rfl, bare⟩ := exists_cons_of_isBareName h
  refine skipBlank_of_head fun d hd => ?_
  obtain rfl : c = d := Option.some.inj hd
  exact isBlank_of_isBare bare

theorem skipGap_append_of_isBareName (h : isBareName name = true) (w : List Char) :
    skipGap false (name ++ w) = name ++ w := by
  obtain ⟨c, name, rfl, bare⟩ := exists_cons_of_isBareName h
  have other : ∀ d, isBare d = false → c ≠ d := by
    rintro d no rfl
    exact absurd bare (by simp [no])
  exact skipGap_cons (isBlank_of_isBare bare) (other _ (by decide)) (other _ (by decide))
    (other _ (by decide))

theorem append_ne_of_isBareName (h : isBareName name = true) (other : isBare c = false)
    (w r : List Char) : name ++ w ≠ c :: r := by
  obtain ⟨d, name, rfl, bare⟩ := exists_cons_of_isBareName h
  intro same
  obtain ⟨rfl, -⟩ := List.cons.inj same
  simp [bare] at other

theorem readKey_append {name : String} (h : isBareName name.toList = true)
    (ends : ∀ c ∈ rest.head?, isBare c = false) :
    readKey (name.toList ++ rest) = some (name, rest) := by
  have unquoted : readQuoted? (name.toList ++ rest) = none := by
    rw [readQuoted?]
    · exact append_ne_of_isBareName h (by decide) rest
    · exact append_ne_of_isBareName h (by decide) rest
  have span : (name.toList ++ rest).span isBare = (name.toList, rest) :=
    span_append (fun _ => isBare_of_mem h) ends
  obtain ⟨c, w, filled, -⟩ := exists_cons_of_isBareName h
  rw [readKey, unquoted, span, filled]
  show some (String.ofList (c :: w), rest) = _
  rw [← filled, String.ofList_toList]

theorem readPath_append {name : String} (h : isBareName name.toList = true)
    (ends : ∀ c ∈ rest.head?, isBare c = false) (whole : (skipBlank rest).head? ≠ some '.') :
    readPath (name.toList ++ rest) = some (⟨[], name⟩, skipBlank rest) := by
  show readKeys (79 + 1) (name.toList ++ rest) = _
  rw [readKeys, skipBlank_append_of_isBareName h, readKey_append h ends]
  simp only [Option.bind_eq_bind, Option.bind_some]
  split
  · next r same =>
    rw [same] at whole
    exact absurd rfl whole
  · rfl

/-! ### Values -/

theorem readValue_quote (cs : List Char) (quotes : rest.head? ≠ some '"')
    (apostrophes : rest.head? ≠ some '\'') :
    readValue (fuel + 1) room (quote cs ++ rest) = some (.text (String.ofList cs), rest) := by
  unfold readValue
  rw [readText?_quote quotes apostrophes]
  rfl

theorem readValue_word (unquoted : readText? cs = none) (list : ∀ w, cs ≠ '[' :: w)
    (table : ∀ w, cs ≠ '{' :: w) : readValue (fuel + 1) room cs = readWord cs := by
  unfold readValue
  rw [unquoted]
  dsimp only
  split
  · exact absurd rfl (list _)
  · exact absurd rfl (table _)
  · exact absurd rfl (list _)
  · exact absurd rfl (table _)
  · rfl

theorem skipGap_quote (cs rest : List Char) :
    skipGap false (quote cs ++ rest) = quote cs ++ rest := by
  obtain ⟨mark, w, eq, rfl | rfl⟩ := exists_quote_eq cs
  all_goals
    rw [eq]
    exact skipGap_cons (by decide) (by decide) (by decide) (by decide)

theorem afterGap?_quote (cs rest : List Char) : afterGap? ']' (quote cs ++ rest) = none := by
  rw [afterGap?, skipGap_quote]
  obtain ⟨mark, w, eq, rfl | rfl⟩ := exists_quote_eq cs
  all_goals
    rw [eq]
    rfl

theorem readItems_single (value : readValue fuel room (skipGap false cs) = some (n, ']' :: rest)) :
    readItems (fuel + 1) room cs = some ([n], rest) := by
  rw [readItems, value]
  rfl

theorem readItems_last (value : readValue fuel room (skipGap false cs) = some (n, ',' :: w))
    (closed : afterGap? ']' w = some rest) :
    readItems (fuel + 1) room cs = some ([n], rest) := by
  have comma : afterGap? ',' (',' :: w) = some w := rfl
  rw [readItems, value]
  simp only [Option.bind_eq_bind, Option.bind_some, comma, closed]
  rfl

theorem readItems_cons {items : List Node}
    (value : readValue fuel room (skipGap false cs) = some (n, ',' :: w))
    (goesOn : afterGap? ']' w = none) (others : readItems fuel room w = some (items, rest)) :
    readItems (fuel + 1) room cs = some (n :: items, rest) := by
  have comma : afterGap? ',' (',' :: w) = some w := rfl
  rw [readItems, value]
  simp only [Option.bind_eq_bind, Option.bind_some, comma, goesOn, others]
  rfl

theorem readValue_list {items : List Node} (filled : afterGap? ']' w = none)
    (all : readItems fuel room w = some (items, rest)) :
    readValue (fuel + 1) (room + 1) ('[' :: w) = some (.list items, rest) := by
  rw [readValue]
  simp only [readText?, readQuoted?, filled, all]
  rfl

/-- The characters are a value: it is read with the fuel, whatever stands on the lines after it. -/
structure Spells (fuel : Nat) (v : List Char) (n : Node) : Prop where
  head : ∀ c ∈ v.head?, isBlank c = false
  read (rest : List Char) :
    readValue fuel depthLimit (v ++ '\n' :: rest) = some (n, '\n' :: rest)

/-! ### Statements -/

def headerLine (name : String) : List Char := '[' :: (name.toList ++ [']', '\n'])

def assignmentLine (name : String) (v : List Char) : List Char :=
  name.toList ++ ' ' :: '=' :: ' ' :: (v ++ ['\n'])

theorem headerLine_append (name : String) (rest : List Char) :
    headerLine name ++ rest = '[' :: (name.toList ++ ']' :: '\n' :: rest) := by
  simp [headerLine]

theorem assignmentLine_append (name : String) (v rest : List Char) :
    assignmentLine name v ++ rest = name.toList ++ ' ' :: '=' :: ' ' :: (v ++ '\n' :: rest) := by
  simp [assignmentLine]

theorem readStatement_headerLine (name : String) (h : isBareName name.toList = true) (fuel : Nat)
    (rest : List Char) :
    readStatement fuel (headerLine name ++ rest) = some (.table ⟨[], name⟩, rest) := by
  have path : readPath (name.toList ++ ']' :: '\n' :: rest)
      = some (⟨[], name⟩, ']' :: '\n' :: rest) :=
    readPath_append h (by simp [isBare]) (by simp [skipBlank, isBlank])
  rw [headerLine_append, readStatement, path]
  · rfl
  · exact append_ne_of_isBareName h (by decide) _

theorem readStatement_assignmentLine (name : String) (h : isBareName name.toList = true)
    (value : Spells fuel v n) (rest : List Char) :
    readStatement (fuel + 1) (assignmentLine name v ++ rest)
      = some (.assignment ⟨⟨[], name⟩, n⟩, rest) := by
  have path : readPath (name.toList ++ ' ' :: '=' :: ' ' :: (v ++ '\n' :: rest))
      = some (⟨[], name⟩, '=' :: ' ' :: (v ++ '\n' :: rest)) :=
    readPath_append h (by simp [isBare]) (by simp [skipBlank, isBlank])
  have start : skipBlank (' ' :: (v ++ '\n' :: rest)) = v ++ '\n' :: rest := by
    show skipBlank (v ++ '\n' :: rest) = _
    refine skipBlank_of_head fun c hc => ?_
    cases v with
    | nil =>
      obtain rfl : '\n' = c := Option.some.inj hc
      rfl
    | cons d v => exact value.head c hc
  have assignment : readAssignment (fuel + 1) depthLimit skipBlank
      (name.toList ++ ' ' :: '=' :: ' ' :: (v ++ '\n' :: rest))
        = some (⟨⟨[], name⟩, n⟩, '\n' :: rest) := by
    rw [readAssignment, path]
    show (readValue fuel depthLimit (skipBlank (' ' :: (v ++ '\n' :: rest)))).bind _ = _
    rw [start, value.read]
    rfl
  rw [assignmentLine_append, readStatement, assignment]
  · rfl
  · exact fun r => append_ne_of_isBareName h (by decide) _ _
  · exact append_ne_of_isBareName h (by decide) _

/-! ### Documents -/

theorem readStatements_cons {line : List Char} {s : Statement} {ss : List Statement}
    (filled : line ≠ []) (start : skipGap false (line ++ rest) = line ++ rest)
    (first : readStatement fuel (line ++ rest) = some (s, rest))
    (others : readStatements fuel rest = some ss) :
    readStatements (fuel + 1) (line ++ rest) = some (s :: ss) := by
  obtain ⟨c, line, rfl⟩ := List.exists_cons_of_ne_nil filled
  rw [readStatements, start]
  show (readStatement fuel (c :: line ++ rest)).bind _ = _
  rw [first]
  show (readStatements fuel rest).bind _ = _
  rw [others]
  rfl

theorem readStatements_headerLine {ss : List Statement} (name : String)
    (h : isBareName name.toList = true) (others : readStatements fuel rest = some ss) :
    readStatements (fuel + 1) (headerLine name ++ rest) = some (.table ⟨[], name⟩ :: ss) := by
  refine readStatements_cons (by simp [headerLine]) ?_ (readStatement_headerLine name h fuel rest)
    others
  exact skipGap_cons (by decide) (by decide) (by decide) (by decide)

theorem readStatements_assignmentLine {ss : List Statement} (name : String)
    (h : isBareName name.toList = true) (value : Spells fuel v n)
    (others : readStatements (fuel + 1) rest = some ss) :
    readStatements (fuel + 2) (assignmentLine name v ++ rest)
      = some (.assignment ⟨⟨[], name⟩, n⟩ :: ss) := by
  refine readStatements_cons (by simp [assignmentLine]) ?_
    (readStatement_assignmentLine name h value rest) others
  rw [assignmentLine_append]
  exact skipGap_append_of_isBareName h _

theorem readStatements_newline (fuel : Nat) (cs : List Char) :
    readStatements fuel ('\n' :: cs) = readStatements fuel cs := by
  have skipped : skipGap false ('\n' :: cs) = skipGap false cs := by
    rw [skipGap, if_pos rfl]
    simp
  cases fuel with
  | zero => rfl
  | succ fuel => rw [readStatements, readStatements, skipped]

theorem Tree.alter_before {name other : String} {t : Tree} {ms : Members} (h : name < other)
    (change : Option Tree → Option Tree) : alter name change ((other, t) :: ms)
      = (change none).map fun u => (name, u) :: (other, t) :: ms := by
  have apart : name ≠ other := by
    rintro rfl
    exact String.lt_irrefl name h
  rw [alter, if_neg apart, if_pos h]

theorem parse?_ofList (h : cs.head? ≠ some '\ufeff') :
    parse? (String.ofList cs) = (readStatements (Toml.fuel cs) cs).bind build := by
  rw [parse?, String.toList_ofList]
  split
  · exact absurd rfl h
  · rfl

end PbxTemplates.Toml
