import PbxTemplates.FunctionKey.Basic
import PbxTemplates.Resolution.Basic

/-!
# Configuration dumps

A dump is the whole input of a request, as the storage layer exports it.
-/

namespace PbxTemplates

@[ext] structure KeyUser where
  userId : UInt64
  publicTemplate : Option UInt64 := none
  privateTemplate : Option UInt64 := none
deriving DecidableEq

@[ext] structure Dump where
  endpoints : List Endpoint := []
  items : List Item := []
  tenants : TenantDirectory := ∅
  keyTemplates : List KeyTemplate := []
  keyUsers : List KeyUser := []
deriving DecidableEq

namespace Dump

/-- The resolution of all items of a dump. An id declared twice is reported before all else. -/
def resolve (d : Dump) (c : Canonicalizer) : Except ResolutionError Resolution :=
  match Catalog.ofList d.endpoints with
  | .error e => .error e
  | .ok catalog => PbxTemplates.resolve c catalog d.items d.tenants

/-- The first template with the given number. -/
def keyTemplate (d : Dump) (id : UInt64) : Except ResolutionError KeyTemplate :=
  match d.keyTemplates.find? fun t => t.id == some id with
  | some t => .ok t
  | none => .error (.unknownKeyTemplate id)

def referredTemplate (d : Dump) : Option UInt64 → Except ResolutionError (Option KeyTemplate)
  | none => .ok none
  | some id => (d.keyTemplate id).map some

/-- The keys of a user, or `none` for a user that the dump does not list. The public template is
looked up before the private one. -/
def userKeys (d : Dump) (userId : UInt64) : Except ResolutionError (Option KeyTemplate) :=
  match d.keyUsers.find? fun u => u.userId == userId with
  | none => .ok none
  | some u => do
    let shared ← d.referredTemplate u.publicTemplate
    let own ← d.referredTemplate u.privateTemplate
    return some (.ofUser shared own)

end Dump

end PbxTemplates
