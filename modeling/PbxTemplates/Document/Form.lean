import PbxTemplates.FunctionKey.Position
import PbxTemplates.Json.Basic

/-!
# Forms: how a value stands in a document

A form says how the values of one type are written and read. Both directions stand together, so that
a type has one form and what is written can be read again.
-/

namespace PbxTemplates

/-- Why a node is no value of a type. -/
inductive DecodeError where
  /-- The node is of another shape, or the document breaks off in it. -/
  | mismatch
  /-- The keys of a template have a name that is no position. -/
  | invalidPosition (e : InvalidPosition)
deriving DecidableEq

/-- What a reader may accept at the place where it stands. -/
structure Reading where
  /-- Whether a list of fields may have more items than there are fields. -/
  surplusIgnored : Bool
  /-- How many levels of nesting are left; `none` stands for no limit. -/
  room : Option Nat
deriving DecidableEq

namespace Reading

/-- Reads values that are already in memory: nothing is surplus, and nesting has no limit. -/
def strict : Reading := ⟨false, none⟩

/-- The same reading one level of nesting further in. -/
def inner (r : Reading) : Reading := { r with room := r.room.map (· - 1) }

end Reading

/-- An order in which tables are written: for each map, all its entries one after the other. -/
structure MemberOrder (α : Type) where
  list (m : SortedMap String α) : List (String × α)
  perm (m : SortedMap String α) : (list m).Perm m.toList

def MemberOrder.byName {α : Type} : MemberOrder α := ⟨(·.toList), fun m => .refl m.toList⟩

/-- How the values of a type are written and read. -/
structure Form (α : Type) where
  write : α → Json
  read : Reading → Node → Except DecodeError α

namespace Form

variable {α β : Type}

/-! ### Single values -/

def text : Form String where
  write := .str
  read _
    | .text s => .ok s
    | _ => .error .mismatch

def bool : Form Bool where
  write := .bool
  read _
    | .bool b => .ok b
    | _ => .error .mismatch

def natBelow (bound : Nat) : Form (Fin bound) where
  write n := .num n
  read _
    | .int (.ofNat n) => if h : n < bound then .ok ⟨n, h⟩ else .error .mismatch
    | _ => .error .mismatch

def convert (f : Form α) (make : α → β) (split : β → α) : Form β where
  write b := f.write (split b)
  read r n := (f.read r n).map make

def word64 : Form UInt64 := (natBelow UInt64.size).convert .ofFin (·.toFin)

def word32 : Form UInt32 := (natBelow UInt32.size).convert .ofFin (·.toFin)

def optional (f : Form α) : Form (Option α) where
  write a := a.elim .null f.write
  read r
    | .null => .ok none
    | n => (f.read r n).map some

/-- One of a few values, each with a name. The name may also stand as the only member of a table,
with the absent value beside it, or with an empty table where `emptyTable` says so. -/
def choice (all : List α) (name : α → String) (emptyTable : Bool) : Form α where
  write a := .str (name a)
  read _ n :=
    let named (s : String) : Except DecodeError α :=
      match all.find? fun a => name a == s with
      | some a => .ok a
      | none => .error .mismatch
    match n with
    | .text s => named s
    | .table [(some s, .null)] => named s
    | .table [(some s, .table [])] => if emptyTable then named s else .error .mismatch
    | _ => .error .mismatch

/-! ### Lists and dictionaries -/

def list (f : Form α) : Form (List α) where
  write l := .arr (l.map f.write)
  read r
    | .list items => items.mapM (f.read r.inner)
    | _ => .error .mismatch

def readEntry (f : Form α) (r : Reading) : Option String × Node → Except DecodeError (String × α)
  | (none, _) => .error .mismatch
  | (some name, n) => (f.read r n).map (name, ·)

/-- A table that may have any names, with its members in the given order. They are read in any order,
and of several members with one name the last one counts. -/
def dictionary (order : MemberOrder α) (f : Form α) : Form (SortedMap String α) where
  write m := .obj ((order.list m).map fun e => (e.1, f.write e.2))
  read r
    | .table members => (members.mapM (f.readEntry r.inner)).map .ofList
    | _ => .error .mismatch

/-- The same form for a value that is held in memory before it is read. -/
def buffered (f : Form α) : Form α where
  write := f.write
  read r n := if n.readable r.room then f.read .strict n else .error .mismatch

end Form

end PbxTemplates
