import PbxTemplates.FunctionKey.Listing
import PbxTemplates.Proofs.FunctionKey.Layering
import PbxTemplates.Proofs.Json.OneLine
import PbxTemplates.Proofs.Text.Runs

/-!
# The listing of function keys

A listing has one line for each key, in the order of positions. Destinations stand in it as compact
JSON, which has no line break whatever texts occur in it and ends with a brace. So only a label could
break a line, and only the mark of a lamp could end one after the destination
(`listing_one_line_per_key`).
-/

namespace PbxTemplates

namespace Json

theorem printMembers_ends (l : Layout) (depth : Nat) (members : List (String × Json)) :
    ∃ front, printMembers l depth members = front ++ ['}'] := by
  induction members with
  | nil => exact ⟨l.lineBreak depth, rfl⟩
  | cons m members ih =>
    obtain ⟨name, j⟩ := m
    obtain ⟨front, h⟩ := ih
    exact ⟨_, by rw [printMembers, h, ← List.append_assoc]⟩

theorem print_obj_ends (l : Layout) (depth : Nat) (members : List (String × Json)) :
    ∃ front, print l depth (.obj members) = front ++ ['}'] := by
  cases members with
  | nil => exact ⟨['{'], rfl⟩
  | cons m members =>
    obtain ⟨name, j⟩ := m
    obtain ⟨front, h⟩ := printMembers_ends l depth members
    exact ⟨_, by rw [print, h, ← List.append_assoc]⟩

end Json

/-- What the line of a key says. -/
structure ShowsKey (line : List Char) (position : UInt32) (k : FunctionKey) : Prop where
  /-- After blanks the line begins with the digits of the position, which end with a blank. -/
  starts : ∃ (blanks : Nat) (rest : List Char),
    line = List.replicate blanks ' ' ++ Decimal.digits position.toNat ++ ' ' :: rest
  /-- Nothing but the mark of a lamp stands after the destination. -/
  ends : ∃ front : List Char,
    line = front ++ (Json.text .compact (Destination.form.write k.destination)).toList
      ++ (if k.blf then " [blf]".toList else [])
  marked_iff : "[blf]".toList <:+ line ↔ k.blf = true

namespace FunctionKey

/-- The line of a key without styles and without its line break. -/
def shown (position : UInt32) (k : FunctionKey) : List Char :=
  List.replicate (3 - (positionText position).length) ' ' ++ Decimal.digits position.toNat
    ++ "  ".toList ++ (k.label.getD "-").toList ++ "  ".toList
    ++ Json.print .compact 0 (Destination.form.write k.destination)
    ++ (if k.blf then " [blf]".toList else [])

theorem toList_line (position : UInt32) (k : FunctionKey) :
    (k.line false position).toList = k.shown position ++ ['\n'] := by
  unfold line shown Text.styled Text.padLeft positionText Decimal.text Json.text
  cases k.blf <;> simp

theorem not_mem_shown {k : FunctionKey} (position : UInt32)
    (h : ∀ label ∈ k.label, '\n' ∉ label.toList) : '\n' ∉ k.shown position := by
  have noControl : ∀ {cs : List Char}, Json.NoControl cs → '\n' ∉ cs := fun h hmem =>
    absurd (h _ hmem) (by decide)
  have digits : '\n' ∉ Decimal.digits position.toNat := noControl (Json.noControl_digits _)
  have destination : '\n' ∉ Json.print .compact 0 (Destination.form.write k.destination) :=
    noControl (Json.noControl_print _ _)
  have label : '\n' ∉ (k.label.getD "-").toList := by
    cases hl : k.label with
    | none => decide
    | some label => exact h label hl
  unfold shown
  simp only [List.mem_append, List.mem_replicate, not_or]
  refine ⟨⟨⟨⟨⟨⟨by simp, digits⟩, by decide⟩, label⟩, by decide⟩, destination⟩, ?_⟩
  cases k.blf <;> decide

/-- The text of a destination ends with a brace, so the mark of a lamp is not part of it. -/
theorem marked_shown_iff (position : UInt32) (k : FunctionKey) :
    "[blf]".toList <:+ k.shown position ↔ k.blf = true := by
  obtain ⟨members, table⟩ : ∃ members, Destination.form.write k.destination = .obj members :=
    ⟨_, rfl⟩
  obtain ⟨front, brace⟩ := Json.print_obj_ends .compact 0 members
  unfold shown
  rw [table, brace]
  cases k.blf with
  | true =>
    refine iff_of_true ?_ rfl
    exact List.IsSuffix.trans (by decide) (List.suffix_append _ _)
  | false =>
    refine iff_of_false ?_ (by decide)
    rw [if_neg (by decide), List.append_nil, ← List.append_assoc]
    rintro ⟨before, h⟩
    have last := congrArg List.getLast? h
    rw [List.getLast?_concat, List.getLast?_append] at last
    exact absurd last (by simp)

theorem showsKey_shown (position : UInt32) (k : FunctionKey) :
    ShowsKey (k.shown position) position k where
  starts := ⟨_, _, by simp only [shown, List.append_assoc]; rfl⟩
  ends := ⟨_, by rw [Json.text, String.toList_ofList]; rfl⟩
  marked_iff := k.marked_shown_iff position

end FunctionKey

namespace KeyTemplate

theorem toList_listing {t : KeyTemplate} (h : t.size ≠ 0) : (t.listing false).toList
    = (t.keys.toList.map fun e => e.2.shown e.1).flatMap (· ++ ['\n']) := by
  have filled : t.keys.isEmpty = false := by
    simpa [size, SortedMap.size, SortedMap.isEmpty] using h
  unfold listing
  rw [filled]
  simp [String.toList_join, List.flatMap_map, FunctionKey.toList_line]

/-- The listing of a template that has keys, shown without styles, has one line for each key. The
lines end with a line feed each, and stand in the order of the positions. Each of them begins with
its position and ends with the mark of a lamp exactly if the key has one. Only labels must have no
line feed; destinations may have any texts. -/
theorem listing_one_line_per_key (t : KeyTemplate) (filled : t.size ≠ 0)
    (labels : ∀ e ∈ t.keys.toList, ∀ label ∈ e.2.label, '\n' ∉ label.toList) :
    ∃ lines : List (List Char),
      (t.display false .listing).toList.splitOn '\n' = lines ++ [[]] ∧
      lines.length = t.size ∧
      t.positions.Pairwise (· < ·) ∧
      List.Forall₂
        (fun line position => ∃ key, t.get? position = some key ∧ ShowsKey line position key)
        lines t.positions := by
  refine ⟨t.keys.toList.map fun e => e.2.shown e.1, ?_, List.length_map _, t.positions_increasing,
    ?_⟩
  · show (t.listing false).toList.splitOn '\n' = _
    rw [toList_listing filled]
    refine splitOn_flatMap_append fun line hline => ?_
    obtain ⟨e, he, rfl⟩ := List.mem_map.mp hline
    exact FunctionKey.not_mem_shown e.1 (labels e he)
  · refine List.forall₂_map_left_iff.mpr (List.forall₂_map_right_iff.mpr ?_)
    refine List.forall₂_same.mpr fun e he => ⟨e.2, ?_, e.2.showsKey_shown e.1⟩
    exact SortedMap.mem_toList_iff.mp he

/-- The destination of one key looks like the end of a line with a mark. -/
def deskKeys : KeyTemplate :=
  .ofKeys [(10, { label := some "Door", blf := false, destination := .custom "1 [blf]\n2" }),
    (9, { destination := .user 7 })]

theorem listing_deskKeys : deskKeys.size ≠ 0 ∧
    (∀ e ∈ deskKeys.keys.toList, ∀ label ∈ e.2.label, '\n' ∉ label.toList) ∧
    ∃ lines : List (List Char),
      (deskKeys.display false .listing).toList.splitOn '\n' = lines ++ [[]] ∧ lines.length = 2 ∧
      List.Forall₂
        (fun line position => ∃ key, deskKeys.get? position = some key ∧
          ShowsKey line position key) lines [9, 10] := by
  have filled : deskKeys.size ≠ 0 := by decide
  have labels : ∀ e ∈ deskKeys.keys.toList, ∀ label ∈ e.2.label, '\n' ∉ label.toList := by decide
  obtain ⟨lines, split, count, _, shows⟩ := listing_one_line_per_key deskKeys filled labels
  exact ⟨filled, labels, lines, split, count, shows⟩

end KeyTemplate

end PbxTemplates
