import PbxTemplates.Document.Record

/-!
# Tagged structures

A value that is one of several structures names its structure by the member `type`, wherever among
the members that stands, or by the first item of a list. It is buffered until the structure is
known.
-/

namespace PbxTemplates

/-- One of the structures that a value can have. -/
structure Case (α : Type) where
  {Fields : Type}
  tag : String
  record : Record Fields
  make : Fields → α
  fields? : α → Option Fields

namespace Case

variable {α : Type}

def tagName : String := "type"

def write? (c : Case α) (a : α) : Option (List (String × Json)) :=
  (c.fields? a).map fun fields => (tagName, .str c.tag) :: c.record.write fields

def named (cases : List (Case α)) (tag : String) : Option (Case α) :=
  cases.find? fun c => c.tag == tag

/-- Reads the members of a table that stand beside its tag. -/
def readTable (cases : List (Case α)) (members : List (Option String × Node)) :
    Except DecodeError α :=
  match members.filter fun m => m.1 == some tagName with
  | [(_, .text tag)] =>
    match named cases tag with
    | some c =>
      (c.record.readMembers Node.intact .strict (members.filter fun m => m.1 != some tagName)).map
        c.make
    | none => .error .mismatch
  | _ => .error .mismatch

/-- Reads the items of a list after its tag. -/
def readList (cases : List (Case α)) (tag : String) (items : List Node) : Except DecodeError α :=
  match named cases tag with
  | some c => (c.record.readItems .strict items).map c.make
  | none => .error .mismatch

/-- The form of a type whose values each have one of the given structures. -/
def form (cases : List (Case α)) : Form α :=
  .buffered {
    write a := .obj ((cases.findSome? fun c => c.write? a).getD [])
    read _
      | .table members => readTable cases members
      | .list (.text tag :: items) => readList cases tag items
      | _ => .error .mismatch }

end Case

end PbxTemplates
