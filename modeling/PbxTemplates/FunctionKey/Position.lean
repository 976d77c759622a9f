import PbxTemplates.FunctionKey.Basic
import PbxTemplates.Text.Decimal

/-!
# Positions as text

Documents name positions by text, so that keys can be members of a table. A position is written in
decimal; what is read may have a plus sign and leading zeros, so several texts can mean one
position. Texts are visited in code point order: the first that is no position is the error, and of
several that mean one position the last one counts.

Main statement: `position?_positionText`.
-/

namespace PbxTemplates

/-- The position that a text means: an optional plus sign and digits of a number below `2 ^ 32`. -/
def position? (text : String) : Option UInt32 :=
  let digits := match text.toList with
    | '+' :: rest => rest
    | cs => cs
  match Decimal.read? digits with
  | some n => if n < UInt32.size then some (UInt32.ofNat n) else none
  | none => none

def positionText (position : UInt32) : String := Decimal.text position.toNat

/-- A text that stands where a position should. -/
structure InvalidPosition where
  text : String
deriving DecidableEq

def InvalidPosition.message (e : InvalidPosition) : String :=
  "invalid func key position '" ++ e.text ++ "'"

namespace KeyMap

def insertText (keys : KeyMap) (entry : String × FunctionKey) : Except InvalidPosition KeyMap :=
  match position? entry.1 with
  | some position => .ok (keys.insert position entry.2)
  | none => .error ⟨entry.1⟩

/-- The keys by position, from keys by text. -/
def ofTexts (keys : SortedMap String FunctionKey) : Except InvalidPosition KeyMap :=
  keys.toList.foldlM insertText ∅

def toTexts (keys : KeyMap) : SortedMap String FunctionKey :=
  .ofList (keys.toList.map fun e => (positionText e.1, e.2))

end KeyMap

theorem position?_positionText (position : UInt32) :
    position? (positionText position) = some position := by
  have noPlus : ∀ rest, Decimal.digits position.toNat ≠ '+' :: rest := fun rest h => by
    have : ('+' : Char).isDigit = true :=
      Decimal.isDigit_of_mem_digits (n := position.toNat) (h ▸ List.mem_cons_self)
    exact absurd this (by decide)
  have digits : (match (positionText position).toList with
      | '+' :: rest => rest
      | cs => cs) = Decimal.digits position.toNat := by
    rw [positionText, Decimal.text, String.toList_ofList]
    split
    · rename_i rest h
      exact absurd h (noPlus rest)
    · rfl
  simp only [position?]
  rw [digits, Decimal.read?_digits]
  simp [position.toNat_lt_size]

end PbxTemplates
