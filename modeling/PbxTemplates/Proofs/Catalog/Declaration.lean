import Mathlib.Data.List.Induction
import Mathlib.Data.List.Nodup
import PbxTemplates.Endpoint.Catalog
import PbxTemplates.Proofs.FirstPlaces

/-!
# Catalogs made from lists

Endpoints are taken into a catalog one after the other, and the first one whose id is already there
ends it. So a list of endpoints with different ids is a catalog as it stands (`ofList_of_nodup`),
and any other list is refused for its first repeated id (`ofList_of_firstRepeat`). What a catalog
holds at an id depends on which endpoints it has and not on their order (`get?_eq_of_perm`).
-/

namespace PbxTemplates.Catalog

variable {c c' : Catalog} {l : List Endpoint} {e : Endpoint} {id : String}

/-! ### Taking in one endpoint -/

theorem insert_of_mem (h : e.id ∈ c.endpoints.map (·.id)) :
    c.insert e = .error (.duplicateEndpoint e.id) := by
  rw [insert, dif_pos h]

theorem insert_of_not_mem (h : e.id ∉ c.endpoints.map (·.id))
    (nodup : ((c.endpoints ++ [e]).map (·.id)).Nodup) :
    c.insert e = .ok ⟨c.endpoints ++ [e], nodup⟩ := by
  rw [insert, dif_neg h]

/-! ### Taking in a list -/

theorem ofList_append (l l' : List Endpoint) :
    ofList (l ++ l') = (ofList l).bind fun c => l'.foldlM insert c := by
  rw [ofList, List.foldlM_append]
  rfl

theorem ofList_of_nodup (h : (l.map (·.id)).Nodup) : ofList l = .ok ⟨l, h⟩ := by
  induction l using List.reverseRecOn with
  | nil => rfl
  | append_singleton l e ih =>
    have parts := h
    rw [List.map_append, List.nodup_append] at parts
    obtain ⟨nodup, _, apart⟩ := parts
    have fresh : e.id ∉ l.map (·.id) := fun hmem => apart e.id hmem e.id (by simp) rfl
    have step : insert ⟨l, nodup⟩ e = .ok ⟨l ++ [e], h⟩ := insert_of_not_mem fresh h
    rw [ofList_append, ih nodup]
    show [e].foldlM insert ⟨l, nodup⟩ = .ok ⟨l ++ [e], h⟩
    rw [List.foldlM_cons, step]
    rfl

/-- The endpoint is the first one in the list whose id has come before. -/
def FirstRepeat (l : List Endpoint) (e : Endpoint) : Prop :=
  ∃ before after, l = before ++ e :: after ∧
    (before.map (·.id)).Nodup ∧ e.id ∈ before.map (·.id)

theorem ofList_of_firstRepeat (h : FirstRepeat l e) :
    ofList l = .error (.duplicateEndpoint e.id) := by
  obtain ⟨before, after, rfl, nodup, again⟩ := h
  have step : insert ⟨before, nodup⟩ e = .error (.duplicateEndpoint e.id) := insert_of_mem again
  rw [ofList_append, ofList_of_nodup nodup]
  show (e :: after).foldlM insert ⟨before, nodup⟩ = .error (.duplicateEndpoint e.id)
  rw [List.foldlM_cons, step]
  rfl

theorem exists_firstRepeat (h : ¬ (l.map (·.id)).Nodup) : ∃ e, FirstRepeat l e := by
  induction l using List.reverseRecOn with
  | nil => exact absurd List.nodup_nil h
  | append_singleton l e ih =>
    by_cases nodup : (l.map (·.id)).Nodup
    · -- what comes before the last endpoint is fine, so it is the last one that repeats an id
      have again : e.id ∈ l.map (·.id) := by
        by_contra fresh
        refine h ?_
        rw [List.map_append]
        exact nodup.append (List.nodup_singleton _) (by simpa using fresh)
      exact ⟨e, l, [], rfl, nodup, again⟩
    · obtain ⟨e', before, after, rfl, first⟩ := ih nodup
      exact ⟨e', before, after ++ [e], by simp, first⟩

/-! ### What is held at an id -/

theorem get?_eq_some_iff : c.get? id = some e ↔ e ∈ c.endpoints ∧ e.id = id := by
  have unique : ∀ a ∈ c.endpoints, ∀ b ∈ c.endpoints, a.id == id → b.id == id → a = b :=
    fun a ha b hb hida hidb => List.inj_on_of_nodup_map c.nodup_ids ha hb
      ((beq_iff_eq.mp hida).trans (beq_iff_eq.mp hidb).symm)
  rw [get?, find?_eq_some_iff_of_unique unique, beq_iff_eq]

theorem get?_eq_of_perm (p : c.endpoints.Perm c'.endpoints) (id : String) :
    c.get? id = c'.get? id := by
  ext e
  rw [get?_eq_some_iff, get?_eq_some_iff, p.mem_iff]

end PbxTemplates.Catalog
