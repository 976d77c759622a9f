/-!
# Nodes: what a document says

Both document formats are read into one type of values before anything is decoded. A node keeps the
members of a table in the order in which they are visited and keeps repeated members. It also keeps
what a reader can only complain about when it gets there: texts and numbers that stand for no value,
and the place where the document itself breaks off.

A value that nobody asks for is either *skipped*, which only needs it to be `intact`, or *buffered*,
which needs it to be `readable`.
-/

namespace PbxTemplates

/-- A value found in a document. -/
inductive Node where
  | null
  | bool (b : Bool)
  | int (n : Int)
  /-- Any other number. Only its size matters: whether floating point has a value for it. -/
  | real (inRange : Bool)
  | text (s : String)
  /-- A text with half of a surrogate pair, which is no sequence of characters. -/
  | badText
  | list (items : List Node)
  /-- A table. A name with half of a surrogate pair is no name. -/
  | table (members : List (Option String × Node))
  /-- The place where the document cannot be read further. -/
  | broken

namespace Node

/-- Whether a number has a place among the 64-bit integers, signed or unsigned. -/
def fitsWord (n : Int) : Bool := -Int.pow 2 63 ≤ n && n < Int.pow 2 64

/-- How many levels of nesting are left inside a list or table; `none` stands for no limit, and the
outer `none` says that not even the list or table itself is allowed. -/
def enter : Option Nat → Option (Option Nat)
  | none => some none
  | some 0 => none
  | some (n + 1) => some (some n)

mutual

/-- Whether a value can be skipped: the document does not break off in it. -/
def intact : Node → Bool
  | list items => intactItems items
  | table members => intactMembers members
  | broken => false
  | _ => true

def intactItems : List Node → Bool
  | [] => true
  | n :: rest => n.intact && intactItems rest

def intactMembers : List (Option String × Node) → Bool
  | [] => true
  | (_, n) :: rest => n.intact && intactMembers rest

end

mutual

/-- Whether all of a value can be read, with the given number of levels of nesting. -/
def readable (room : Option Nat) : Node → Bool
  | int n => fitsWord n
  | real inRange => inRange
  | list items =>
    match enter room with
    | none => false
    | some inner => readableItems inner items
  | table members =>
    match enter room with
    | none => false
    | some inner => readableMembers inner members
  | badText | broken => false
  | null | bool _ | text _ => true

def readableItems (room : Option Nat) : List Node → Bool
  | [] => true
  | n :: rest => n.readable room && readableItems room rest

def readableMembers (room : Option Nat) : List (Option String × Node) → Bool
  | [] => true
  | (name, n) :: rest => name.isSome && n.readable room && readableMembers room rest

end

end Node

end PbxTemplates
