import PbxTemplates.Proofs.Document.Lawful
import PbxTemplates.Proofs.Toml.Reader
import PbxTemplates.Settings.Form

/-!
# Settings files read back

The text of settings is read statement by statement. Its values are an array of texts and two truth
values, and what its statements build is decoded to the same settings.

Main statement: `read_print_append`.
-/

namespace PbxTemplates

namespace Settings

open Toml

variable {fuel room : Nat}

/-! ### Values -/

/-- The characters of an array from an item on, where each item has a line of its own. -/
def itemLines (keys : List String) : List Char :=
  keys.flatMap (fun s => "    ".toList ++ quote s.toList ++ ",\n".toList) ++ [']']

theorem itemLines_cons (key : String) (keys : List String) :
    itemLines (key :: keys)
      = ' ' :: ' ' :: ' ' :: ' ' :: (quote key.toList ++ ',' :: '\n' :: itemLines keys) := by
  simp [itemLines]

theorem length_le_itemLines (keys : List String) : keys.length ≤ (itemLines keys).length := by
  induction keys with
  | nil => exact Nat.zero_le _
  | cons key keys ih =>
    simp only [itemLines_cons, List.length_cons, List.length_append]
    omega

theorem printTexts_of_several (first second : String) (keys : List String) :
    printTexts (first :: second :: keys) = '[' :: '\n' :: itemLines (first :: second :: keys) := by
  simp [printTexts, itemLines]

theorem length_le_printTexts (keys : List String) : keys.length ≤ (printTexts keys).length := by
  match keys with
  | [] => exact Nat.zero_le _
  | [key] => simp [printTexts]
  | first :: second :: keys =>
    have := length_le_itemLines (first :: second :: keys)
    simp only [printTexts_of_several, List.length_cons] at this ⊢
    omega

theorem skipGap_itemLines (key : String) (keys : List String) (rest : List Char) :
    skipGap false ('\n' :: (itemLines (key :: keys) ++ rest))
      = quote key.toList ++ ',' :: '\n' :: (itemLines keys ++ rest) := by
  rw [← skipGap_quote, itemLines_cons]
  simp [skipGap, isBlank]

theorem afterGap?_itemLines (key : String) (keys : List String) (rest : List Char) :
    afterGap? ']' ('\n' :: (itemLines (key :: keys) ++ rest)) = none := by
  rw [afterGap?, skipGap_itemLines, ← skipGap_quote]
  exact afterGap?_quote _ _

theorem readItems_itemLines (key : String) (keys : List String) (rest : List Char)
    (h : keys.length + 2 ≤ fuel) :
    readItems fuel room ('\n' :: (itemLines (key :: keys) ++ rest))
      = some ((key :: keys).map .text, rest) := by
  obtain ⟨fuel, rfl⟩ : ∃ n, fuel = n + 2 := ⟨fuel - 2, by omega⟩
  have value : readValue (fuel + 1) room (skipGap false ('\n' :: (itemLines (key :: keys) ++ rest)))
      = some (.text key, ',' :: '\n' :: (itemLines keys ++ rest)) := by
    rw [skipGap_itemLines, readValue_quote _ (by simp) (by simp), String.ofList_toList]
  induction keys generalizing key fuel with
  | nil => exact readItems_last value rfl
  | cons next keys ih =>
    rw [List.length_cons] at h
    obtain ⟨fuel, rfl⟩ : ∃ n, fuel = n + 1 := ⟨fuel - 1, by omega⟩
    refine readItems_cons value (afterGap?_itemLines next keys rest) (ih next fuel (by omega) ?_)
    rw [skipGap_itemLines, readValue_quote _ (by simp) (by simp), String.ofList_toList]

theorem readValue_printTexts (keys : List String) (rest : List Char)
    (h : keys.length + 3 ≤ fuel) :
    readValue fuel (room + 1) (printTexts keys ++ rest) = some (.list (keys.map .text), rest) := by
  obtain ⟨fuel, rfl⟩ : ∃ n, fuel = n + 3 := ⟨fuel - 3, by omega⟩
  match keys with
  | [] => rfl
  | [key] =>
    have shape : printTexts [key] ++ rest = '[' :: (quote key.toList ++ ']' :: rest) := by
      simp [printTexts]
    rw [shape]
    refine readValue_list (afterGap?_quote _ _) (readItems_single ?_)
    rw [skipGap_quote, readValue_quote _ (by simp) (by simp), String.ofList_toList]
  | key :: next :: keys =>
    rw [printTexts_of_several]
    simp only [List.length_cons] at h
    exact readValue_list (afterGap?_itemLines key _ rest)
      (readItems_itemLines key _ rest (by simp only [List.length_cons]; omega))

theorem spells_printTexts (keys : List String) (h : keys.length + 3 ≤ fuel) :
    Spells fuel (printTexts keys) (.list (keys.map .text)) where
  head := by
    match keys with
    | [] | [_] | _ :: _ :: _ => simp [printTexts, isBlank]
  read rest := readValue_printTexts keys _ h

theorem readWord_printBool (b : Bool) (rest : List Char) :
    readWord (printBool b ++ '\n' :: rest) = some (.bool b, '\n' :: rest) := by
  have word : spanWord (printBool b ++ '\n' :: rest) = (printBool b, '\n' :: rest) := by
    cases b <;> rfl
  have value : wordNode? (printBool b) = some (.bool b) := by
    cases b <;> rfl
  rw [readWord, word]
  simp only [value]
  rfl

theorem spells_printBool (b : Bool) : Spells (fuel + 1) (printBool b) (.bool b) where
  head := by cases b <;> simp [printBool, isBlank]
  read rest := by
    have unquoted : readText? (printBool b ++ '\n' :: rest) = none := by
      cases b <;> rfl
    rw [readValue_word unquoted, readWord_printBool]
    all_goals
      cases b <;> simp [printBool]

/-! ### Statements -/

def statements (s : Settings) : List Statement :=
  [.table ⟨[], "resolver"⟩,
    .assignment ⟨⟨[], "extra_repeatable_keys"⟩,
      .list (s.resolver.extraRepeatableKeys.map .text)⟩,
    .table ⟨[], "output"⟩,
    .assignment ⟨⟨[], "pretty"⟩, .bool s.output.pretty⟩,
    .assignment ⟨⟨[], "include_stats"⟩, .bool s.output.includeStats⟩]

theorem print_append (s : Settings) (after : List Char) : s.print ++ after
    = headerLine "resolver" ++
      (assignmentLine "extra_repeatable_keys" (printTexts s.resolver.extraRepeatableKeys) ++
      '\n' :: (headerLine "output" ++
      (assignmentLine "pretty" (printBool s.output.pretty) ++
      (assignmentLine "include_stats" (printBool s.output.includeStats) ++ after)))) := by
  unfold print
  simp [headerLine, assignmentLine]

theorem readStatements_print (s : Settings) {after : List Char} (blank : skipGap false after = [])
    (h : s.resolver.extraRepeatableKeys.length + 8 ≤ fuel) :
    readStatements fuel (s.print ++ after) = some s.statements := by
  obtain ⟨fuel, rfl⟩ : ∃ n, fuel = n + 8 := ⟨fuel - 8, by omega⟩
  have ended : readStatements (fuel + 3) after = some [] := by
    rw [readStatements, blank]
  rw [print_append]
  refine readStatements_headerLine "resolver" (by decide) ?_
  refine readStatements_assignmentLine "extra_repeatable_keys" (by decide)
    (spells_printTexts _ (by omega)) ?_
  rw [readStatements_newline]
  refine readStatements_headerLine "output" (by decide) ?_
  refine readStatements_assignmentLine "pretty" (by decide) (spells_printBool _) ?_
  exact readStatements_assignmentLine "include_stats" (by decide) (spells_printBool _) ended

/-- The table that the statements of a settings file build, with its members sorted. -/
def node (s : Settings) : Node :=
  .table [
    (some "output", .table [
      (some "include_stats", .bool s.output.includeStats),
      (some "pretty", .bool s.output.pretty)]),
    (some "resolver", .table [
      (some "extra_repeatable_keys", .list (s.resolver.extraRepeatableKeys.map .text))])]

theorem assignAll_output (s : OutputSettings) :
    Tree.assignAll [⟨⟨[], "pretty"⟩, .bool s.pretty⟩,
        ⟨⟨[], "include_stats"⟩, .bool s.includeStats⟩] []
      = some [("include_stats", .value (.bool s.includeStats)),
          ("pretty", .value (.bool s.pretty))] := by
  have order : "include_stats" < "pretty" := by decide
  have pretty : Tree.assign "pretty" (.bool s.pretty) [] []
      = some [("pretty", .value (.bool s.pretty))] := rfl
  have includeStats : Tree.assign "include_stats" (.bool s.includeStats) []
      [("pretty", .value (.bool s.pretty))] = some [("include_stats", .value (.bool s.includeStats)),
        ("pretty", .value (.bool s.pretty))] := by
    rw [Tree.assign, Tree.alter_before order]
    rfl
  simp only [Tree.assignAll, List.foldlM_cons, List.foldlM_nil, Option.bind_eq_bind,
    Option.bind_some, pretty, includeStats]
  rfl

theorem build_statements (s : Settings) : build s.statements = some s.node := by
  have order : "output" < "resolver" := by decide
  -- the second header opens a table in front of the first one
  have opened (t : Tree) : Tree.openTable ⟨[], "output"⟩
      [⟨⟨[], "pretty"⟩, .bool s.output.pretty⟩,
        ⟨⟨[], "include_stats"⟩, .bool s.output.includeStats⟩] [("resolver", t)]
      = some [("output", .table .headed [("include_stats", .value (.bool s.output.includeStats)),
          ("pretty", .value (.bool s.output.pretty))]), ("resolver", t)] := by
    rw [Tree.openTable, Tree.within, Tree.alter_before order, assignAll_output]
    rfl
  show ((Tree.openTable ⟨[], "output"⟩ _ [("resolver", _)]).bind _).bind _ = _
  rw [opened]
  rfl

theorem read_resolver (s : ResolverSettings) (r : Reading) (h : r.Admits 2) :
    ResolverSettings.form.read r (.table [
      (some "extra_repeatable_keys", .list (s.extraRepeatableKeys.map .text))]) = .ok s := by
  have lawful : ResolverSettings.form.Lawful 2 :=
    ((Record.lawful_defaulted Form.lawful_text.list).convert fun _ => rfl).form (by decide)
  have keys : ((Form.list Form.text).write s.extraRepeatableKeys).toNode
      = .list (s.extraRepeatableKeys.map .text) := Form.toNode_write_list Form.text _
  rw [← keys]
  exact lawful.read_write s r h

theorem read_output (s : OutputSettings) (r : Reading) :
    OutputSettings.form.read r (.table [
      (some "include_stats", .bool s.includeStats), (some "pretty", .bool s.pretty)]) = .ok s := rfl

theorem read_node (s : Settings) : form.read reading s.node = .ok s := by
  have resolver := read_resolver s.resolver reading.inner (by intro m hm; cases hm)
  have output := read_output s.output reading.inner
  have names : "output" ≠ "resolver" := by decide
  simp only [form, Record.form, Record.convert, Record.and, Record.defaulted, Record.readMembers,
    node, List.foldlM_cons, List.foldlM_nil, Record.takeMember, List.cons_append, List.nil_append,
    List.mem_cons, List.not_mem_nil, or_false, or_true, if_true, names, if_false, Record.takeOnce,
    output, resolver]
  rfl

theorem parse?_print (s : Settings) {after : List Char} (blank : skipGap false after = []) :
    parse? (String.ofList (s.print ++ after)) = some s.node := by
  have length := length_le_printTexts s.resolver.extraRepeatableKeys
  have enough : s.resolver.extraRepeatableKeys.length + 8 ≤ Toml.fuel (s.print ++ after) := by
    rw [print_append]
    simp only [Toml.fuel, headerLine, assignmentLine, List.length_append, List.length_cons]
    omega
  have start : (s.print ++ after).head? ≠ some '\ufeff' := by
    rw [print_append]
    simp [headerLine]
  rw [parse?_ofList start, s.readStatements_print blank enough]
  exact s.build_statements

theorem read_print_append (s : Settings) {after : List Char} (blank : skipGap false after = []) :
    read (String.ofList (s.print ++ after)) = .ok s := by
  rw [read, decode, s.parse?_print blank]
  exact s.read_node

end Settings

end PbxTemplates
