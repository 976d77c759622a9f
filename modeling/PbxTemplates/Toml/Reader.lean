import PbxTemplates.Document.Form
import PbxTemplates.Toml.Scalar
import PbxTemplates.Toml.Tree

/-!
# Reading TOML

A document is a list of statements, one a line: headers and assignments. It is read as a whole
before anything is decoded.

The reader is bounded by fuel; `fuel` is what a text needs.
-/

namespace PbxTemplates.Toml

/-! ### Values -/

/-- What follows a character that comes after a gap. -/
def afterGap? (c : Char) (cs : List Char) : Option (List Char) := after? c (skipGap false cs)

mutual

/-- Reads a value with at most `room` levels of nesting. -/
def readValue : Nat → Nat → List Char → Option (Node × List Char)
  | 0, _, _ => none
  | fuel + 1, room, cs =>
    match readText? cs with
    | some r => r.map fun (s, rest) => (.text (String.ofList s), rest)
    | none =>
      match cs, room with
      | '[' :: _, 0 | '{' :: _, 0 => none
      | '[' :: rest, room + 1 =>
        match afterGap? ']' rest with
        | some rest => some (.list [], rest)
        | none => (readItems fuel room rest).map fun (items, rest) => (.list items, rest)
      | '{' :: rest, room + 1 =>
        match afterGap? '}' rest with
        | some rest => some (.table [], rest)
        | none => do
          let (assignments, rest) ← readInline fuel room rest
          let members ← Tree.assignAll assignments []
          return (.table (Tree.memberNodes members), rest)
      | cs, _ => readWord cs
termination_by structural fuel => fuel

def readItems : Nat → Nat → List Char → Option (List Node × List Char)
  | 0, _, _ => none
  | fuel + 1, room, cs => do
    let (n, rest) ← readValue fuel room (skipGap false cs)
    match afterGap? ',' rest with
    | none => return ([n], ← afterGap? ']' rest)
    | some rest =>
      match afterGap? ']' rest with
      | some rest => return ([n], rest)
      | none =>
        let (items, rest) ← readItems fuel room rest
        return (n :: items, rest)
termination_by structural fuel => fuel

/-- Reads the assignments of an inline table, of which there is at least one, and the closing
brace. -/
def readInline : Nat → Nat → List Char → Option (List Tree.Assignment × List Char)
  | 0, _, _ => none
  | fuel + 1, room, cs => do
    let (a, rest) ← readAssignment fuel room (skipGap false) (skipGap false cs)
    match afterGap? ',' rest with
    | none => return ([a], ← afterGap? '}' rest)
    | some rest =>
      match afterGap? '}' rest with
      | some rest => return ([a], rest)
      | none =>
        let (as, rest) ← readInline fuel room rest
        return (a :: as, rest)
termination_by structural fuel => fuel

/-- Reads a path, an equals sign and a value. What `skip` passes over may stand on both sides of the
sign. -/
def readAssignment : Nat → Nat → (List Char → List Char) → List Char →
    Option (Tree.Assignment × List Char)
  | 0, _, _, _ => none
  | fuel + 1, room, skip, cs => do
    let (path, rest) ← readPath cs
    let (n, rest) ← readValue fuel room (skip (← after? '=' (skip rest)))
    return (⟨path, n⟩, rest)
termination_by structural fuel => fuel

end

/-! ### Statements -/

inductive Statement where
  | table (path : Path)
  /-- Adds a table to an array of tables. -/
  | item (path : Path)
  | assignment (a : Tree.Assignment)

/-- Reads a statement up to the end of its line. -/
def readStatement (fuel : Nat) (cs : List Char) : Option (Statement × List Char) :=
  match cs with
  | '[' :: '[' :: rest => do
    let (path, rest) ← readPath rest
    return (.item path, ← lineEnd? (← after? ']' (← after? ']' rest)))
  | '[' :: rest => do
    let (path, rest) ← readPath rest
    return (.table path, ← lineEnd? (← after? ']' rest))
  | cs => do
    let (a, rest) ← readAssignment fuel depthLimit skipBlank cs
    return (.assignment a, ← lineEnd? rest)

def readStatements : Nat → List Char → Option (List Statement)
  | 0, _ => none
  | fuel + 1, cs =>
    match skipGap false cs with
    | [] => some []
    | cs => do
      let (s, rest) ← readStatement fuel cs
      return s :: (← readStatements fuel rest)

/-- The fuel that suffices for a text: each character takes at most four calls. -/
def fuel (cs : List Char) : Nat := 4 * cs.length + 4

/-! ### Documents -/

/-- Whether a header opens a table or adds one to an array of tables. -/
inductive Block where
  | table (path : Path) (assignments : List Tree.Assignment)
  | item (path : Path) (assignments : List Tree.Assignment)

/-- The assignments before the first header, and each header with the assignments after it. -/
def blocks : List Statement → List Tree.Assignment × List Block
  | [] => ([], [])
  | .assignment a :: rest =>
    let (assignments, bs) := blocks rest
    (a :: assignments, bs)
  | .table path :: rest =>
    let (assignments, bs) := blocks rest
    ([], .table path assignments :: bs)
  | .item path :: rest =>
    let (assignments, bs) := blocks rest
    ([], .item path assignments :: bs)

def Block.add (ms : Tree.Members) : Block → Option Tree.Members
  | .table path assignments => Tree.openTable path assignments ms
  | .item path assignments => Tree.openItem path assignments ms

/-- The table that a list of statements builds. -/
def build (statements : List Statement) : Option Node := do
  let (assignments, bs) := blocks statements
  let ms ← Tree.assignAll assignments []
  let ms ← bs.foldlM Block.add ms
  return .table (Tree.memberNodes ms)

/-- The table that a text says, after a byte order mark if there is one. -/
def parse? (text : String) : Option Node :=
  let cs := match text.toList with
    | '\ufeff' :: rest => rest
    | cs => cs
  (readStatements (fuel cs) cs).bind build

/-- What is accepted in a document: surplus items, and no further limit to nesting. -/
def reading : Reading := ⟨true, none⟩

def decode {α : Type} (f : Form α) (text : String) : Except DecodeError α :=
  match parse? text with
  | some n => f.read reading n
  | none => .error .mismatch

end PbxTemplates.Toml
