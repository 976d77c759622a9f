import PbxTemplates.Document.Node
import PbxTemplates.Toml.Key

/-!
# Tables built from assignments

A document builds its tables piece by piece: headers open tables, dotted keys create them on the
way, and arrays of tables grow at the end. What may be extended later depends on how a table came
about, so this is kept until the document has been read. Members are kept in code point order of
their names, which is the order in which they are visited.
-/

namespace PbxTemplates.Toml

/-- How a table came about. -/
inductive Origin where
  /-- A header opened it. -/
  | headed
  /-- A header opened a table further in. -/
  | implied
  /-- A dotted key assigned something further in. -/
  | dotted
deriving DecidableEq

/-- A part of a document under construction. -/
inductive Tree where
  | value (n : Node)
  | table (origin : Origin) (members : List (String × Tree))
  /-- An array of tables: the latest one, and the earlier ones in reverse. -/
  | tables (latest : List (String × Tree)) (earlier : List (List (String × Tree)))

namespace Tree

/-- The members of a table under construction, sorted by name. -/
abbrev Members := List (String × Tree)

def alter (name : String) (change : Option Tree → Option Tree) : Members → Option Members
  | [] => (change none).map fun t => [(name, t)]
  | (n, t) :: rest =>
    if name = n then (change (some t)).map fun t => (name, t) :: rest
    else if name < n then (change none).map fun u => (name, u) :: (n, t) :: rest
    else (alter name change rest).map ((n, t) :: ·)

/-- The members with a value assigned to a path. A table on the way must have come about by dotted
keys, or be one that dotted keys may pass through. -/
def assign (key : String) (n : Node) : List String → Members → Option Members
  | [], ms => alter key (fun
    | none => some (.value n)
    | some _ => none) ms
  | name :: path, ms => alter name (fun
    | none => (assign key n path []).map (.table .dotted)
    | some (.table origin sub) =>
      if origin = .dotted ∨ (origin = .implied ∧ path ≠ []) then
        (assign key n path sub).map (.table origin)
      else none
    | some (.tables latest earlier) =>
      if path = [] then none else (assign key n path latest).map (.tables · earlier)
    | some (.value _) => none) ms

structure Assignment where
  path : Path
  value : Node

def assignAll (assignments : List Assignment) (ms : Members) : Option Members :=
  assignments.foldlM (fun ms a => assign a.path.key a.value a.path.parents ms) ms

/-- A change of the members of the table that a header names the way to. -/
def within (change : Members → Option Members) : List String → Members → Option Members
  | [], ms => change ms
  | name :: path, ms => alter name (fun
    | none => (within change path []).map (.table .implied)
    | some (.table origin sub) => (within change path sub).map (.table origin)
    | some (.tables latest earlier) => (within change path latest).map (.tables · earlier)
    | some (.value _) => none) ms

/-- Opens a table and makes assignments in it. A table can be opened once. -/
def openTable (path : Path) (assignments : List Assignment) (ms : Members) : Option Members :=
  within (alter path.key fun
    | none => (assignAll assignments []).map (.table .headed)
    | some (.table .implied sub) => (assignAll assignments sub).map (.table .headed)
    | some _ => none) path.parents ms

/-- Adds a table at the end of an array of tables and makes assignments in it. -/
def openItem (path : Path) (assignments : List Assignment) (ms : Members) : Option Members :=
  within (alter path.key fun
    | none => (assignAll assignments []).map (.tables · [])
    | some (.tables latest earlier) =>
      (assignAll assignments []).map (.tables · (latest :: earlier))
    | some _ => none) path.parents ms

mutual

/-- What a part of a document says. -/
def toNode : Tree → Node
  | value n => n
  | table _ members => .table (memberNodes members)
  | tables latest earlier => .list (tableNodes [.table (memberNodes latest)] earlier)

/-- What the members of a table say. -/
def memberNodes : List (String × Tree) → List (Option String × Node)
  | [] => []
  | (name, t) :: rest => (some name, t.toNode) :: memberNodes rest

/-- What tables in reverse say, before the given nodes. -/
def tableNodes (later : List Node) : List (List (String × Tree)) → List Node
  | [] => later
  | ms :: rest => tableNodes (.table (memberNodes ms) :: later) rest

end

end Tree

end PbxTemplates.Toml
