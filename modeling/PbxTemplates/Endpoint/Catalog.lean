import PbxTemplates.Endpoint.Basic
import PbxTemplates.Resolution.Error

/-!
# Catalogs of endpoints

A catalog holds endpoints of different ids. Parents are not looked up here: a resolution reports
one that is missing when it gets there.
-/

namespace PbxTemplates

/-- Endpoints, no two with the same id. -/
@[ext] structure Catalog where
  endpoints : List Endpoint
  nodup_ids : (endpoints.map (·.id)).Nodup
deriving DecidableEq

namespace Catalog

def empty : Catalog := ⟨[], List.nodup_nil⟩

instance : EmptyCollection Catalog := ⟨empty⟩

instance : Inhabited Catalog := ⟨empty⟩

def ids (c : Catalog) : List String := c.endpoints.map (·.id)

def size (c : Catalog) : Nat := c.endpoints.length

def get? (c : Catalog) (id : String) : Option Endpoint := c.endpoints.find? fun e => e.id == id

/-- The catalog with one more endpoint, whose id must be new. -/
def insert (c : Catalog) (e : Endpoint) : Except ResolutionError Catalog :=
  if h : e.id ∈ c.endpoints.map (·.id) then .error (.duplicateEndpoint e.id)
  else .ok ⟨c.endpoints ++ [e], by
    rw [List.map_append, List.nodup_append]
    refine ⟨c.nodup_ids, by simp, fun a ha b hb => ?_⟩
    have hb : b = e.id := by simpa using hb
    exact fun hab => h (hb ▸ hab ▸ ha)⟩

/-- The catalog of a list of endpoints; the first id that comes a second time is an error. -/
def ofList (endpoints : List Endpoint) : Except ResolutionError Catalog :=
  endpoints.foldlM insert empty

theorem id_of_get?_eq_some {c : Catalog} {id : String} {e : Endpoint} (h : c.get? id = some e) :
    e.id = id := by
  simpa using List.find?_some h

theorem mem_ids_of_get?_eq_some {c : Catalog} {id : String} {e : Endpoint}
    (h : c.get? id = some e) : id ∈ c.ids := by
  rw [← id_of_get?_eq_some h]
  exact List.mem_map.2 ⟨e, List.mem_of_find?_eq_some h, rfl⟩

end Catalog

end PbxTemplates
