import PbxTemplates.Endpoint.Record
import PbxTemplates.Resolution.Owners

/-!
# The walk through the template graph

The walk builds an endpoint after all endpoints that it inherits from, depth first and each one
once. It marks what is being built, so that it finds the way back to an endpoint that inherits from
itself, and what has been built, so that a shared template is not built again.

A visit is bounded by fuel. Main statement: `visit_ne_none`, by which fuel above the number of
endpoints not yet marked is enough; `Graph.walk` starts with that much.
-/

namespace PbxTemplates

/-- How far the walk has come with an endpoint. -/
inductive Mark where
  /-- The endpoint is on the path of the walk. -/
  | inProgress
  /-- The endpoint is the one of this number, counted from zero in the order of building. -/
  | built (index : Nat)
deriving DecidableEq

structure Walk where
  /-- The endpoints met so far. -/
  marks : SortedMap String Mark := ∅
  /-- The endpoints in progress, each one a parent of the one before it. -/
  path : List String := []
  /-- The endpoints built so far, ancestors before descendants. -/
  built : List BuiltEndpoint := []
  visits : Nat := 0

/-- What a walk goes through. -/
structure Graph where
  canonicalizer : Canonicalizer
  catalog : Catalog
  owners : OwnerTable

namespace Walk

def count (w : Walk) : Walk := { w with visits := w.visits + 1 }

def enter (w : Walk) (id : String) : Walk :=
  { w with marks := w.marks.insert id .inProgress, path := w.path ++ [id] }

/-- The walk leaves the endpoint at the end of its path, which is now built. -/
def leave (w : Walk) (id : String) (b : BuiltEndpoint) : Walk :=
  { w with
    marks := w.marks.insert id (.built w.built.length)
    path := w.path.dropLast
    built := w.built ++ [b] }

/-- The part of the path that leads from an endpoint back to itself. -/
def cycle (w : Walk) (id : String) : List String := w.path.drop (w.path.idxOf id) ++ [id]

def bodies (w : Walk) (indices : List Nat) : List Sections :=
  indices.map fun i => (w.built[i]?.map (·.body)).getD {}

/-! ### Marks are never taken back -/

/-- What is marked in the first state is marked in the second. -/
def Keeps (w w' : Walk) : Prop := ∀ id, (w.marks.get? id).isSome → (w'.marks.get? id).isSome

theorem Keeps.refl (w : Walk) : Keeps w w := fun _ h => h

theorem Keeps.trans {w₁ w₂ w₃ : Walk} (h : Keeps w₁ w₂) (h' : Keeps w₂ w₃) : Keeps w₁ w₃ :=
  fun id hid => h' id (h id hid)

theorem isSome_insert (m : SortedMap String Mark) (j k : String) (x : Mark)
    (h : (m.get? j).isSome) : ((m.insert k x).get? j).isSome := by
  by_cases hjk : j = k
  · rw [hjk, SortedMap.get?_insert_self]
    rfl
  · rw [SortedMap.get?_insert_of_ne m hjk]
    exact h

theorem keeps_count (w : Walk) : Keeps w w.count := fun _ h => h

theorem keeps_enter (w : Walk) (id : String) : Keeps w (w.enter id) :=
  fun j h => isSome_insert w.marks j id .inProgress h

theorem keeps_leave (w : Walk) (id : String) (b : BuiltEndpoint) : Keeps w (w.leave id b) :=
  fun j h => isSome_insert w.marks j id (.built w.built.length) h

end Walk

/-- The outcome of a step of the walk: a value or an error, and the state at that point. -/
abbrev Outcome (α : Type) := Except ResolutionError α × Walk

/-- Visits a list of endpoints in turn and collects what the visits return. The first error ends
it; `none` means that a visit ran out of fuel. -/
def visitAll (visit : String → Walk → Option (Outcome Nat)) :
    List String → Walk → Option (Outcome (List Nat))
  | [], w => some (.ok [], w)
  | id :: ids, w =>
    match visit id w with
    | none => none
    | some (.error e, w₁) => some (.error e, w₁)
    | some (.ok i, w₁) =>
      match visitAll visit ids w₁ with
      | none => none
      | some (.error e, w₂) => some (.error e, w₂)
      | some (.ok is, w₂) => some (.ok (i :: is), w₂)

namespace Graph

def absent (id : String) : Option String → ResolutionError
  | some child => .missingParent child id
  | none => .unknownEndpoint id

/-- Builds an endpoint after its ancestors and returns its number. `child` is the endpoint that
inherits from it, if the walk came from one. -/
def visit (g : Graph) : Nat → String → Option String → Walk → Option (Outcome Nat)
  | 0, _, _, _ => none
  | fuel + 1, id, child, w =>
    match w.marks.get? id with
    | some (.built i) => some (.ok i, w.count)
    | some .inProgress => some (.error (.inheritanceCycle (w.cycle id)), w.count)
    | none =>
      match g.catalog.get? id with
      | none => some (.error (absent id child), w.count)
      | some e =>
        match visitAll (fun p => visit g fuel p (some id)) e.parents (w.count.enter id) with
        | none => none
        | some (.error err, w') => some (.error err, w')
        | some (.ok indices, w') =>
          let b := BuiltEndpoint.ofParents g.canonicalizer e (g.owners.get? id) (w'.bodies indices)
          some (.ok w'.built.length, w'.leave id b)

/-! ### Fuel -/

/-- The endpoints of the catalog that the walk has not met. -/
def unmarked (g : Graph) (w : Walk) : List String :=
  g.catalog.ids.filter fun id => (w.marks.get? id).isNone

theorem length_unmarked_le {g : Graph} {w w' : Walk} (h : Walk.Keeps w w') :
    (g.unmarked w').length ≤ (g.unmarked w).length := by
  simp only [unmarked, ← List.countP_eq_length_filter]
  refine List.countP_mono_left fun id _ hid => ?_
  have := h id
  cases hw : w.marks.get? id with
  | none => rfl
  | some m =>
    have : (w'.marks.get? id).isSome := this (by simp [hw])
    cases hw' : w'.marks.get? id with
    | none => simp [hw'] at this
    | some m' => simp [hw'] at hid

theorem length_unmarked_enter {g : Graph} {w : Walk} {id : String} (hm : w.marks.get? id = none)
    (hid : id ∈ g.catalog.ids) :
    (g.unmarked (w.count.enter id)).length < (g.unmarked w).length := by
  have sub : g.unmarked (w.count.enter id) = (g.unmarked w).filter (fun j => j != id) := by
    simp only [unmarked, List.filter_filter]
    refine List.filter_congr fun j _ => ?_
    by_cases hj : j = id
    · simp [hj, Walk.enter, Walk.count]
    · simp [hj, Walk.enter, Walk.count, SortedMap.get?_insert_of_ne]
  have mem : id ∈ g.unmarked w := List.mem_filter.2 ⟨hid, by simp [hm]⟩
  rw [sub]
  exact List.length_filter_lt_length_iff_exists.2 ⟨id, mem, by simp⟩

theorem visitAll_ne_none {g : Graph} {n : Nat} {visit : String → Walk → Option (Outcome Nat)}
    (h : ∀ id w, (g.unmarked w).length < n → ∃ r w', visit id w = some (r, w') ∧ Walk.Keeps w w')
    (ids : List String) (w : Walk) (hw : (g.unmarked w).length < n) :
    ∃ r w', visitAll visit ids w = some (r, w') ∧ Walk.Keeps w w' := by
  induction ids generalizing w with
  | nil => exact ⟨_, _, rfl, Walk.Keeps.refl w⟩
  | cons id ids ih =>
    obtain ⟨r, w₁, hr, hk⟩ := h id w hw
    simp only [visitAll, hr]
    cases r with
    | error e => exact ⟨_, _, rfl, hk⟩
    | ok i =>
      have hw₁ : (g.unmarked w₁).length < n := Nat.lt_of_le_of_lt (length_unmarked_le hk) hw
      obtain ⟨r', w₂, hr', hk'⟩ := ih w₁ hw₁
      simp only [hr']
      cases r' with
      | error e => exact ⟨_, _, rfl, hk.trans hk'⟩
      | ok is => exact ⟨_, _, rfl, hk.trans hk'⟩

/-- A visit does not run out of fuel if there is more of it than endpoints not yet marked. -/
theorem visit_ne_none (g : Graph) (fuel : Nat) (id : String) (child : Option String) (w : Walk)
    (h : (g.unmarked w).length < fuel) :
    ∃ r w', g.visit fuel id child w = some (r, w') ∧ Walk.Keeps w w' := by
  induction fuel generalizing id child w with
  | zero => omega
  | succ fuel ih =>
    simp only [visit]
    split
    · exact ⟨_, _, rfl, Walk.keeps_count w⟩
    · exact ⟨_, _, rfl, Walk.keeps_count w⟩
    · rename_i hm
      split
      · exact ⟨_, _, rfl, Walk.keeps_count w⟩
      · rename_i e he
        have lt := length_unmarked_enter hm (Catalog.mem_ids_of_get?_eq_some he)
        have enough : (g.unmarked (w.count.enter id)).length < fuel := by omega
        obtain ⟨r, w', hr, hk⟩ :=
          visitAll_ne_none (fun p w hw => ih p (some id) w hw) e.parents _ enough
        have keeps : Walk.Keeps w w' := (Walk.keeps_enter w.count id).trans hk
        simp only [hr]
        cases r with
        | error err => exact ⟨_, _, rfl, keeps⟩
        | ok indices => exact ⟨_, _, rfl, keeps.trans (Walk.keeps_leave _ _ _)⟩

/-! ### Walking through a list of items -/

/-- Visits the given endpoints with the given fuel for each. -/
def walkWithin (g : Graph) (fuel : Nat) (ids : List String) (w : Walk) :
    Option (Outcome (List Nat)) :=
  visitAll (fun id => g.visit fuel id none) ids w

/-- The fuel that a walk from the start needs. -/
def fuel (g : Graph) : Nat := g.catalog.size + 1

theorem length_unmarked_lt_fuel (g : Graph) (w : Walk) : (g.unmarked w).length < g.fuel := by
  have := List.length_filter_le (fun id => (w.marks.get? id).isNone) g.catalog.ids
  have ids : g.catalog.ids.length = g.catalog.size := by simp [Catalog.ids, Catalog.size]
  simp only [unmarked, fuel]
  omega

theorem isSome_walkWithin (g : Graph) (ids : List String) (w : Walk) :
    (g.walkWithin g.fuel ids w).isSome := by
  obtain ⟨r, w', h, _⟩ := visitAll_ne_none
    (fun id w hw => g.visit_ne_none g.fuel id none w hw) ids w (g.length_unmarked_lt_fuel w)
  simp [walkWithin, h]

/-- Visits the given endpoints, starting with nothing built. -/
def walk (g : Graph) (ids : List String) : Outcome (List Nat) :=
  (g.walkWithin g.fuel ids {}).get (g.isSome_walkWithin ids {})

end Graph

end PbxTemplates
