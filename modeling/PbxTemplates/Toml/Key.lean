import PbxTemplates.Toml.Text

/-!
# Keys and dotted paths
-/

namespace PbxTemplates.Toml

/-- The path to a member: the tables on the way and the name of the member. -/
structure Path where
  parents : List String
  key : String
deriving DecidableEq

/-- The characters of a key without quotes. -/
def isBare (c : Char) : Bool := c.isAlphanum || c = '-' || c = '_'

/-- Reads a key: a quoted text within a line, or a run of bare characters. -/
def readKey (cs : List Char) : Option (String × List Char) :=
  match readQuoted? cs with
  | some r => r.map fun (key, rest) => (String.ofList key, rest)
  | none =>
    match cs.span isBare with
    | ([], _) => none
    | (key, rest) => some (String.ofList key, rest)

/-- Reads at most the given count of keys with points between them. White space may stand on both
sides of a point and is passed over after the path. -/
def readKeys : Nat → List Char → Option (Path × List Char)
  | 0, _ => none
  | count + 1, cs => do
    let (key, rest) ← readKey (skipBlank cs)
    match skipBlank rest with
    | '.' :: rest =>
      let (path, rest) ← readKeys count rest
      return (⟨key :: path.parents, path.key⟩, rest)
    | rest => return (⟨[], key⟩, rest)

/-- How many keys a path may have, and how deeply values can be nested. -/
def depthLimit : Nat := 80

def readPath (cs : List Char) : Option (Path × List Char) := readKeys depthLimit cs

end PbxTemplates.Toml
