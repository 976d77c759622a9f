import PbxTemplates.Json.Basic
import PbxTemplates.Json.Text
import PbxTemplates.Text.Decimal

/-!
# Printing JSON

Values are printed in one of two layouts. The compact one has no white space. The indented one puts
each item and member on a line of its own, except that empty lists and tables stay on one line.
-/

namespace PbxTemplates.Json

/-- Where white space stands in printed values. -/
structure Layout where
  /-- What stands before an item or a closing bracket, at a depth of nesting. -/
  lineBreak : Nat → List Char
  /-- What stands after a colon. -/
  gap : List Char

namespace Layout

def compact : Layout := ⟨fun _ => [], []⟩

/-- One line per item, indented by two blanks per level. -/
def indented : Layout := ⟨fun depth => '\n' :: List.replicate (2 * depth) ' ', [' ']⟩

end Layout

def printName (l : Layout) (name : String) : List Char := quote name.toList ++ ':' :: l.gap

mutual

def print (l : Layout) (depth : Nat) : Json → List Char
  | null => "null".toList
  | bool true => "true".toList
  | bool false => "false".toList
  | num n => Decimal.digits n
  | str s => quote s.toList
  | arr [] => "[]".toList
  | arr (j :: rest) =>
    '[' :: l.lineBreak (depth + 1) ++ print l (depth + 1) j ++ printItems l depth rest
  | obj [] => "{}".toList
  | obj ((name, j) :: rest) =>
    '{' :: l.lineBreak (depth + 1) ++ printName l name ++ print l (depth + 1) j
      ++ printMembers l depth rest

/-- The items of a list after the first one, and the closing bracket. -/
def printItems (l : Layout) (depth : Nat) : List Json → List Char
  | [] => l.lineBreak depth ++ [']']
  | j :: rest =>
    ',' :: l.lineBreak (depth + 1) ++ print l (depth + 1) j ++ printItems l depth rest

/-- The members of a table after the first one, and the closing brace. -/
def printMembers (l : Layout) (depth : Nat) : List (String × Json) → List Char
  | [] => l.lineBreak depth ++ ['}']
  | (name, j) :: rest =>
    ',' :: l.lineBreak (depth + 1) ++ printName l name ++ print l (depth + 1) j
      ++ printMembers l depth rest

end

def text (l : Layout) (j : Json) : String := String.ofList (print l 0 j)

end PbxTemplates.Json
