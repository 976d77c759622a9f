import PbxTemplates.Section.Basic

/-!
# Endpoints and templates

An endpoint is declared by its own entries per section and by the templates that it inherits from.
-/

namespace PbxTemplates

/-- An endpoint or a template as it is declared. -/
@[ext] structure Endpoint where
  /-- The identifier by which items and other endpoints refer to it. -/
  id : String
  /-- The name of its sections, used where one section refers to another. -/
  name : String
  label : String := ""
  asteriskId : Option String := none
  tenantId : String
  /-- A template is there to be inherited from: it has no owner and yields no record. -/
  isTemplate : Bool := false
  /-- The templates inherited from; the entries of a later one win. -/
  parents : List String := []
  /-- The transport, unless it is the server's default. -/
  transport : Option String := none
  sections : Sections := {}
deriving DecidableEq

namespace Endpoint

def withParent (e : Endpoint) (parent : String) : Endpoint :=
  { e with parents := e.parents ++ [parent] }

def withEntry (e : Endpoint) (kind : SectionKind) (entry : Entry) : Endpoint :=
  { e with sections := e.sections.push kind entry }

end Endpoint

end PbxTemplates
