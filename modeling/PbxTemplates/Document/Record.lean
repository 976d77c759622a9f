import PbxTemplates.Document.Form

/-!
# Records: structures in documents

A structure stands in a document as a table with a member for each field, or as the list of its
fields. The members of a table are visited in order: a field that comes twice is an error when it
comes again, and a member that is no field is passed over. After all members the fields that did not
come take their defaults, and one without default is an error.

A record describes the fields of a structure one after the other. It collects what it has read of
them in a draft.
-/

namespace PbxTemplates

/-- How the fields of a structure stand in a document. -/
structure Record (α : Type) where
  /-- What has been read so far. -/
  Draft : Type
  names : List String
  start : Draft
  /-- Reads one of the named fields. -/
  take : Reading → String → Node → Draft → Except DecodeError Draft
  /-- The structure, once there is nothing more to read. -/
  finish : Draft → Except DecodeError α
  write : α → List (String × Json)

namespace Record

variable {α β : Type}

/-! ### Fields -/

/-- Reads a field that has not been read yet. -/
def takeOnce (f : Form α) (r : Reading) (n : Node) : Option α → Except DecodeError (Option α)
  | none => (f.read r n).map some
  | some _ => .error .mismatch

def required (name : String) (f : Form α) : Record α where
  Draft := Option α
  names := [name]
  start := none
  take r _ n d := takeOnce f r n d
  finish
    | some a => .ok a
    | none => .error .mismatch
  write a := [(name, f.write a)]

def defaulted (name : String) (f : Form α) (default : α) : Record α where
  Draft := Option α
  names := [name]
  start := none
  take r _ n d := takeOnce f r n d
  finish d := .ok (d.getD default)
  write a := [(name, f.write a)]

def optional (name : String) (f : Form α) : Record (Option α) := defaulted name f.optional none

/-- A list that is not written if it is empty. -/
def unlessEmpty (name : String) (f : Form (List α)) : Record (List α) :=
  { defaulted name f [] with write := fun l => if l.isEmpty then [] else [(name, f.write l)] }

/-- The fields of one record and then those of another, which have other names. -/
def and (p : Record α) (q : Record β) : Record (α × β) where
  Draft := p.Draft × q.Draft
  names := p.names ++ q.names
  start := (p.start, q.start)
  take r name n d :=
    if name ∈ p.names then (p.take r name n d.1).map (·, d.2)
    else (q.take r name n d.2).map (d.1, ·)
  finish d :=
    match p.finish d.1 with
    | .error e => .error e
    | .ok a => (q.finish d.2).map (a, ·)
  write ab := p.write ab.1 ++ q.write ab.2

def convert (p : Record α) (make : α → β) (split : β → α) : Record β where
  Draft := p.Draft
  names := p.names
  start := p.start
  take := p.take
  finish d := (p.finish d).map make
  write b := p.write (split b)

/-! ### Tables and lists of fields -/

/-- Takes in one member of a table. What is no field must satisfy `pass`. -/
def takeMember (p : Record α) (pass : Node → Bool) (r : Reading) (d : p.Draft) :
    Option String × Node → Except DecodeError p.Draft
  | (none, _) => .error .mismatch
  | (some name, n) =>
    if name ∈ p.names then p.take r name n d
    else if pass n then .ok d
    else .error .mismatch

def readMembers (p : Record α) (pass : Node → Bool) (r : Reading)
    (members : List (Option String × Node)) : Except DecodeError α :=
  (members.foldlM (p.takeMember pass r) p.start).bind p.finish

def takeItems (p : Record α) (r : Reading) (d : p.Draft) (fields : List (String × Node)) :
    Except DecodeError p.Draft :=
  fields.foldlM (fun d field => p.take r field.1 field.2 d) d

def readItems (p : Record α) (r : Reading) (items : List Node) : Except DecodeError α :=
  ((p.takeItems r p.start (p.names.zip items)).bind p.finish).bind fun a =>
    if items.length ≤ p.names.length || r.surplusIgnored then .ok a else .error .mismatch

/-! ### Forms of structures -/

/-- A structure: a table or a list of fields. Members of a table that are no fields are skipped. -/
def form (p : Record α) : Form α where
  write a := .obj (p.write a)
  read r
    | .table members => p.readMembers Node.intact r.inner members
    | .list items => p.readItems r.inner items
    | _ => .error .mismatch

/-- A structure that is only written as a table, where members that are no fields are buffered. -/
def tableForm (p : Record α) : Form α where
  write a := .obj (p.write a)
  read r
    | .table members => p.readMembers (Node.readable r.inner.room) r.inner members
    | _ => .error .mismatch

/-- A structure that is only written as a list of its fields. -/
def listForm (p : Record α) : Form α where
  write a := .arr ((p.write a).map (·.2))
  read r
    | .list items => p.readItems r.inner items
    | _ => .error .mismatch

end Record

end PbxTemplates
