import PbxTemplates.Text.Hex
import PbxTemplates.Text.Invisible
import PbxTemplates.Text.Mark

/-!
# Paths

A path is the text that a user has typed. It consists of names between slashes. An empty name says
nothing but at the end, where it says that the path leads to a directory. A single point stands for
the directory in which it is.
-/

namespace PbxTemplates

/-- A path as it is typed. -/
structure Path where
  text : String
deriving DecidableEq

namespace Path

/-- The pieces of a path between slashes. -/
def pieces (p : Path) : List (List Char) := p.text.toList.splitOn '/'

def isAbsolute (p : Path) : Bool := p.text.toList.head? = some '/'

/-- The names on the way, single points among them. -/
def steps (p : Path) : List String := (p.pieces.filter (· ≠ [])).map String.ofList

/-- Whether a piece is a name that says more than that the way stays where it is. -/
def isName (piece : List Char) : Bool := piece ≠ [] && piece ≠ ['.']

/-- The names on the way, without single points. -/
def names (p : Path) : List String := (p.pieces.filter isName).map String.ofList

def endsWithSlash (p : Path) : Bool := p.pieces.getLast? = some []

def ofPieces (pieces : List (List Char)) : Path := ⟨String.ofList (['/'].intercalate pieces)⟩

/-- The paths of the directories on the way to the last name, innermost first. -/
def parents (p : Path) : List Path :=
  let starts := (List.range (p.pieces.length + 1)).map p.pieces.take
  ((starts.filter fun start => start.getLast?.any isName).dropLast.map ofPieces).reverse

def join (directory : String) (name : String) : Path :=
  ⟨if (⟨directory⟩ : Path).endsWithSlash then directory ++ name else directory ++ "/" ++ name⟩

/-- The part of a name after its last point. A point at the beginning of a name does not count, and
the name of the directory further out has no such part. -/
def extensionOf? (name : List Char) : Option (List Char) :=
  if name = ['.', '.'] then none
  else match name.reverse.span (· ≠ '.') with
    | (ext, _ :: _ :: _) => some ext.reverse
    | _ => none

def extension? (p : Path) : Option (List Char) :=
  p.names.getLast?.bind fun name => extensionOf? name.toList

/-! ### Showing a path -/

def showChar (c : Char) : List Char :=
  if c = '"' ∨ c = '\\' then ['\\', c]
  else if c = '\n' then ['\\', 'n']
  else if c = '\r' then ['\\', 'r']
  else if c = '\t' then ['\\', 't']
  else if c = '\x00' then ['\\', '0']
  else if Text.isInvisible c || Text.isMark c then
    ['\\', 'u', '\x7b'] ++ Hex.digits c.toNat ++ ['\x7d']
  else [c]

def quoted (p : Path) : String :=
  String.ofList ('"' :: p.text.toList.flatMap showChar ++ ['"'])

end Path

end PbxTemplates
