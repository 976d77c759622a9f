import Mathlib.Data.List.Perm.Basic
import PbxTemplates.FunctionKey.Position
import PbxTemplates.Proofs.SortedMap

/-!
# Keys by text and by position

Keys stand in a document in the order of their texts, in which `10` comes before `9`. The order does
not matter when they are read: different positions have different texts, so each key comes back to
its own position (`ofTexts_toTexts`).
-/

namespace PbxTemplates

theorem positionText_injective : Function.Injective positionText := by
  intro p q h
  have read : position? (positionText p) = position? (positionText q) := congrArg position? h
  rw [position?_positionText, position?_positionText] at read
  exact Option.some.inj read

namespace KeyMap

variable {keys : KeyMap} {l : List (UInt32 × FunctionKey)}

def textEntry (e : UInt32 × FunctionKey) : String × FunctionKey := (positionText e.1, e.2)

theorem foldlM_insertText (keys : KeyMap) (l : List (UInt32 × FunctionKey)) :
    (l.map textEntry).foldlM insertText keys = .ok (keys.insertMany l) := by
  induction l generalizing keys with
  | nil => rfl
  | cons e l ih =>
    have here : keys.insertText (textEntry e) = .ok (keys.insert e.1 e.2) := by
      rw [insertText, textEntry, position?_positionText]
    rw [List.map_cons, List.foldlM_cons, here]
    exact ih (keys.insert e.1 e.2)

theorem toList_toTexts_perm (keys : KeyMap) :
    keys.toTexts.toList.Perm (keys.toList.map textEntry) := by
  refine SortedMap.toList_ofList_perm ?_
  have texts : (keys.toList.map textEntry).map (·.1)
      = (keys.toList.map (·.1)).map positionText := by
    rw [List.map_map, List.map_map]
    rfl
  show ((keys.toList.map textEntry).map (·.1)).Nodup
  rw [texts]
  exact keys.nodup_keys.map positionText_injective

theorem ofTexts_toTexts (keys : KeyMap) : ofTexts keys.toTexts = .ok keys := by
  -- the texts are in another order than the positions, so are the keys that they are read as
  obtain ⟨l, texts, perm⟩ :=
    (congrFun₂ (List.eq_map_comp_perm textEntry) _ _).mpr keys.toList_toTexts_perm
  rw [ofTexts, texts, foldlM_insertText]
  exact congrArg Except.ok (SortedMap.ofList_eq_of_perm perm)

end KeyMap

end PbxTemplates
