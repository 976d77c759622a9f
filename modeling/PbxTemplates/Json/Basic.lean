import PbxTemplates.Document.Node

/-!
# Values to be written

The program writes fewer values than it can read: all its numbers are natural, its texts are
sequences of characters, and no two members of one table have the same name.
-/

namespace PbxTemplates

/-- A value to be written. -/
inductive Json where
  | null
  | bool (b : Bool)
  | num (n : Nat)
  | str (s : String)
  | arr (items : List Json)
  /-- A table, with its members in the order of writing. -/
  | obj (members : List (String × Json))

namespace Json

mutual

/-- What a written value says when it is read. -/
def toNode : Json → Node
  | null => .null
  | bool b => .bool b
  | num n => .int n
  | str s => .text s
  | arr items => .list (itemNodes items)
  | obj members => .table (memberNodes members)

def itemNodes : List Json → List Node
  | [] => []
  | j :: rest => j.toNode :: itemNodes rest

def memberNodes : List (String × Json) → List (Option String × Node)
  | [] => []
  | (name, j) :: rest => (some name, j.toNode) :: memberNodes rest

end

end Json

end PbxTemplates
