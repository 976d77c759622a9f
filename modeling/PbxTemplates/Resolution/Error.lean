import PbxTemplates.Owner.Basic
import PbxTemplates.Text.Decimal

/-!
# Why a resolution fails

Each defect of a template graph is one constructor; the wording stands in one place.
-/

namespace PbxTemplates

/-- The defects for which a resolution is refused as a whole. -/
inductive ResolutionError where
  /-- An endpoint inherits from an id that nothing declares. -/
  | missingParent (endpoint parent : String)
  | duplicateEndpoint (endpoint : String)
  /-- An item names an endpoint that nothing declares. -/
  | unknownEndpoint (endpoint : String)
  /-- An endpoint inherits from itself. The chain goes from an endpoint to its parents and ends with
  the id that it begins with. -/
  | inheritanceCycle (chain : List String)
  /-- An endpoint that is no template has no owner. -/
  | missingOwner (endpoint : String)
  | conflictingOwner (endpoint : String) (first second : OwnerKind)
  | templateOwned (endpoint : String) (owner : OwnerKind)
  | unknownKeyTemplate (id : UInt64)
deriving DecidableEq

namespace ResolutionError

def message : ResolutionError → String
  | missingParent endpoint parent =>
    "Endpoint '" ++ endpoint ++ "' inherits from unknown template '" ++ parent ++ "'"
  | duplicateEndpoint endpoint => "Endpoint '" ++ endpoint ++ "' is declared more than once"
  | unknownEndpoint endpoint =>
    "Configuration item references unknown endpoint '" ++ endpoint ++ "'"
  | inheritanceCycle chain =>
    "Template inheritance cycle detected: " ++ " -> ".intercalate chain
  | missingOwner endpoint =>
    "Endpoint '" ++ endpoint ++ "' is not a template but no line, trunk or meeting owns it"
  | conflictingOwner endpoint first second =>
    "Endpoint '" ++ endpoint ++ "' is owned by both a " ++ first.text ++ " and a " ++ second.text
  | templateOwned endpoint owner =>
    "Endpoint '" ++ endpoint ++ "' is a template and cannot be owned by a " ++ owner.text
  | unknownKeyTemplate id => "Function key template " ++ Decimal.text id.toNat ++ " is not defined"

end ResolutionError

end PbxTemplates
