import PbxTemplates.Document.Form
import PbxTemplates.Json.Text
import PbxTemplates.Text.Magnitude

/-!
# Reading JSON

The reader turns a text into a node and says what follows it. Where the text breaks off, it leaves a
broken node at that place, so that what stands before is decoded first.

The reader is bounded by fuel, which each value, item and member spends; `fuel` is what a text
needs.
-/

namespace PbxTemplates.Json

def isBlank (c : Char) : Bool := c = ' ' || c = '\t' || c = '\n' || c = '\r'

def skipBlank (cs : List Char) : List Char := cs.dropWhile isBlank

/-! ### Numbers -/

/-- The digits at the beginning of a text, if there are any, and what follows them. -/
def readDigits (cs : List Char) : Option (List Char × List Char) :=
  match cs.span Char.isDigit with
  | ([], _) => none
  | (digits, rest) => some (digits, rest)

/-- The digits of a fraction; none without a point. -/
def readFraction : List Char → Option (List Char × List Char)
  | '.' :: rest => readDigits rest
  | cs => some ([], cs)

def readSignedDigits : List Char → Option (Int × List Char)
  | '-' :: rest => (readDigits rest).map fun (ds, rest) => (-(Decimal.value ds : Int), rest)
  | '+' :: rest => (readDigits rest).map fun (ds, rest) => (Decimal.value ds, rest)
  | cs => (readDigits cs).map fun (ds, rest) => (Decimal.value ds, rest)

/-- An exponent, if there is one. -/
def readExponent : List Char → Option (Option Int × List Char)
  | 'e' :: rest | 'E' :: rest => (readSignedDigits rest).map fun (e, rest) => (some e, rest)
  | cs => some (none, cs)

/-- The node of a numeral. Whole numbers beyond 64 bits and a negative zero are no integers. The
leading digits of other numbers say whether they have a finite value. -/
def numberNode (negative : Bool) (whole fraction : List Char) (exponent : Option Int) : Node :=
  let n := Decimal.value (whole ++ fraction)
  let signed : Int := if negative then -n else n
  if fraction = [] ∧ exponent = none ∧ Node.fitsWord signed ∧ ¬(negative ∧ n = 0) then .int signed
  else .real (Decimal.Leading.ofDigits whole fraction (exponent.getD 0)).isFinite

/-- Reads a numeral after its sign. Its first digit is zero only before a point. -/
def readUnsigned (negative : Bool) (cs : List Char) : Option (Node × List Char) := do
  let (whole, rest) ← readDigits cs
  if whole.head? = some '0' ∧ whole.length ≠ 1 then none
  else
    let (fraction, rest) ← readFraction rest
    let (exponent, rest) ← readExponent rest
    return (numberNode negative whole fraction exponent, rest)

def readNumber : List Char → Option (Node × List Char)
  | '-' :: rest => readUnsigned true rest
  | cs => readUnsigned false cs

/-! ### Values -/

/-- A node and what follows it; nothing follows where the text breaks off. -/
abbrev Scan := Node × Option (List Char)

/-- Reads a text after its opening quote. -/
def readText (cs : List Char) : Scan :=
  match readPieces cs with
  | none => (.broken, none)
  | some (ps, rest) =>
    match joinPieces ps with
    | some cs => (.text (String.ofList cs), some rest)
    | none => (.badText, some rest)

/-- Reads the name of a member and the colon after it. The inner `none` stands for a name with half
of a surrogate pair. -/
def readName (cs : List Char) : Option (Option String × Option (List Char)) :=
  match skipBlank cs with
  | '"' :: rest =>
    match readPieces rest with
    | none => none
    | some (ps, rest) =>
      let name := (joinPieces ps).map String.ofList
      match skipBlank rest with
      | ':' :: rest => some (name, some rest)
      | _ => some (name, none)
  | _ => none

def readScalar (cs : List Char) : Scan :=
  match cs with
  | 'n' :: 'u' :: 'l' :: 'l' :: rest => (.null, some rest)
  | 't' :: 'r' :: 'u' :: 'e' :: rest => (.bool true, some rest)
  | 'f' :: 'a' :: 'l' :: 's' :: 'e' :: rest => (.bool false, some rest)
  | cs =>
    match readNumber cs with
    | some (n, rest) => (n, some rest)
    | none => (.broken, none)

mutual

def readValue : Nat → List Char → Scan
  | 0, _ => (.broken, none)
  | fuel + 1, cs =>
    match skipBlank cs with
    | '"' :: rest => readText rest
    | '[' :: rest =>
      match skipBlank rest with
      | ']' :: rest => (.list [], some rest)
      | rest => (readItems fuel rest).map .list id
    | '{' :: rest =>
      match skipBlank rest with
      | '}' :: rest => (.table [], some rest)
      | rest => (readMembers fuel rest).map .table id
    | cs => readScalar cs

/-- Reads the items of a list, of which there is at least one. -/
def readItems : Nat → List Char → List Node × Option (List Char)
  | 0, _ => ([.broken], none)
  | fuel + 1, cs =>
    match readValue fuel cs with
    | (n, none) => ([n], none)
    | (n, some rest) =>
      match skipBlank rest with
      | ',' :: rest => (readItems fuel rest).map (n :: ·) id
      | ']' :: rest => ([n], some rest)
      | _ => ([n, .broken], none)

def readMembers : Nat → List Char → List (Option String × Node) × Option (List Char)
  | 0, _ => ([(none, .broken)], none)
  | fuel + 1, cs =>
    match readName cs with
    | none => ([(none, .broken)], none)
    | some (name, none) => ([(name, .broken)], none)
    | some (name, some rest) =>
      match readValue fuel rest with
      | (n, none) => ([(name, n)], none)
      | (n, some rest) =>
        match skipBlank rest with
        | ',' :: rest => (readMembers fuel rest).map ((name, n) :: ·) id
        | '}' :: rest => ([(name, n)], some rest)
        | _ => ([(name, n), (none, .broken)], none)

end

/-- The fuel that suffices for a text: each nested value takes two calls and a bracket. -/
def fuel (cs : List Char) : Nat := 2 * cs.length + 2

def scan (cs : List Char) : Scan := readValue (fuel cs) cs

/-! ### Documents -/

/-- What is accepted in a document: no surplus, and 127 levels of nesting. -/
def reading : Reading := ⟨false, some 127⟩

/-- Decodes a document. Nothing but white space may follow its value. -/
def decode {α : Type} (f : Form α) (text : String) : Except DecodeError α :=
  let (n, rest) := scan text.toList
  match f.read reading n with
  | .error e => .error e
  | .ok a => if rest.any fun cs => (skipBlank cs).isEmpty then .ok a else .error .mismatch

end PbxTemplates.Json
