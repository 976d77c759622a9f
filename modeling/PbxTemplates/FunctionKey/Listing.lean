import PbxTemplates.FunctionKey.Form
import PbxTemplates.Json.Printer
import PbxTemplates.Text.Style

/-!
# Listings of function keys

The keys of a template are shown as a JSON document or as a listing with one line per key: position,
label, destination, and a mark if the key has a lamp.
-/

namespace PbxTemplates

inductive KeyDisplay where
  | json
  | listing
deriving DecidableEq

def KeyDisplay.ofName? (s : String) : Option KeyDisplay :=
  if s = "json" then some json else if s = "pretty" then some listing else none

/-- The line of a key. A key without label has a hyphen in its place. -/
def FunctionKey.line (color : Bool) (position : UInt32) (k : FunctionKey) : String :=
  Text.styled color .bold (Text.padLeft 3 (positionText position)) ++ "  "
    ++ k.label.getD "-" ++ "  "
    ++ (Destination.form.write k.destination).text .compact
    ++ (if k.blf then Text.styled color .green " [blf]" else "") ++ "\n"

namespace KeyTemplate

/-- The lines of all keys by position, or a remark that there are none. -/
def listing (color : Bool) (t : KeyTemplate) : String :=
  if t.keys.isEmpty then Text.styled color .dimmed "(no function keys)"
  else String.join (t.keys.toList.map fun e => e.2.line color e.1)

def display (color : Bool) (way : KeyDisplay) (t : KeyTemplate) : String :=
  match way with
  | .json => (form.write t).text .indented
  | .listing => t.listing color

end KeyTemplate

end PbxTemplates
