import Mathlib.Data.List.TakeDrop

/-!
# Texts taken apart

A reader takes a run of characters of one kind, and the run ends where another character follows.
Lines that end with a mark each come apart at the marks.
-/

namespace PbxTemplates

variable {α : Type} {p : α → Bool} {body rest : List α}

theorem span_append (inside : ∀ a ∈ body, p a = true) (follow : ∀ a ∈ rest.head?, p a = false) :
    (body ++ rest).span p = (body, rest) := by
  have stop : rest.takeWhile p = [] ∧ rest.dropWhile p = rest := by
    cases rest with
    | nil => exact ⟨rfl, rfl⟩
    | cons a rest => simp [follow a rfl]
  rw [List.span_eq_takeWhile_dropWhile, List.takeWhile_append_of_pos inside,
    List.dropWhile_append_of_pos inside, stop.1, stop.2, List.append_nil]

theorem splitOn_flatMap_append [DecidableEq α] {mark : α} {lines : List (List α)}
    (h : ∀ line ∈ lines, mark ∉ line) :
    (lines.flatMap (· ++ [mark])).splitOn mark = lines ++ [[]] := by
  have joined : lines.flatMap (· ++ [mark]) = [mark].intercalate (lines ++ [[]]) := by
    induction lines with
    | nil => rfl
    | cons line lines ih =>
      have rest := ih fun line hline => h line (List.mem_cons_of_mem _ hline)
      rw [List.flatMap_cons, rest, List.cons_append, List.intercalate_cons_of_ne_nil (by simp)]
  rw [joined]
  refine List.splitOn_intercalate mark (fun line hline => ?_) (by simp)
  rcases List.mem_append.mp hline with hline | hline
  · exact h line hline
  · simp [List.mem_singleton.mp hline]

end PbxTemplates
