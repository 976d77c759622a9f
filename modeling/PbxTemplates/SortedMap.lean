/-!
# Maps sorted by key

A finite map kept as the list of its entries in strictly increasing key order. Two maps with the
same entries are the same value, so equality of maps is equality of what they hold. Sorted sets are
maps to `Unit`.

Main statements: `get?_insert_self` and `get?_insert_of_ne` say what an insertion changes.
-/

namespace PbxTemplates

universe u v

/-- A finite map: its entries, in strictly increasing key order. -/
@[ext] structure SortedMap (κ : Type u) [Ord κ] (α : Type v) where
  toList : List (κ × α)
  /-- Each key is below all later ones. -/
  sorted : toList.Pairwise fun a b => compare a.1 b.1 = .lt
deriving DecidableEq

/-- A finite set: a map that only has keys. -/
abbrev SortedSet (κ : Type u) [Ord κ] := SortedMap κ Unit

namespace SortedMap

variable {κ : Type u} {α : Type v} [Ord κ]

def empty : SortedMap κ α := ⟨[], List.Pairwise.nil⟩

instance : EmptyCollection (SortedMap κ α) := ⟨empty⟩

instance : Inhabited (SortedMap κ α) := ⟨empty⟩

def size (m : SortedMap κ α) : Nat := m.toList.length

def isEmpty (m : SortedMap κ α) : Bool := m.toList.isEmpty

def keys (m : SortedMap κ α) : List κ := m.toList.map (·.1)

def get? (m : SortedMap κ α) (k : κ) : Option α :=
  (m.toList.find? fun e => compare k e.1 == .eq).map (·.2)

def contains (m : SortedMap κ α) (k : κ) : Bool := (m.get? k).isSome

/-! ### Insertion -/

/-- Puts an entry at its place in a sorted list, instead of an entry with the same key. -/
def insertEntry (k : κ) (x : α) : List (κ × α) → List (κ × α)
  | [] => [(k, x)]
  | e :: rest =>
    match compare k e.1 with
    | .lt => (k, x) :: e :: rest
    | .eq => (k, x) :: rest
    | .gt => e :: insertEntry k x rest

theorem mem_insertEntry {k : κ} {x : α} {l : List (κ × α)} {e : κ × α}
    (h : e ∈ insertEntry k x l) : e = (k, x) ∨ e ∈ l := by
  induction l with
  | nil => simpa [insertEntry] using h
  | cons a rest ih =>
    simp only [insertEntry] at h
    split at h
    · simpa using h
    · rcases List.mem_cons.1 h with h | h
      · exact .inl h
      · exact .inr (List.mem_cons_of_mem _ h)
    · rcases List.mem_cons.1 h with h | h
      · exact .inr (h ▸ List.mem_cons_self)
      · rcases ih h with h | h
        · exact .inl h
        · exact .inr (List.mem_cons_of_mem _ h)

theorem pairwise_insertEntry [Std.TransOrd κ] (k : κ) (x : α) {l : List (κ × α)}
    (hl : l.Pairwise fun a b => compare a.1 b.1 = .lt) :
    (insertEntry k x l).Pairwise fun a b => compare a.1 b.1 = .lt := by
  induction l with
  | nil => simp [insertEntry]
  | cons a rest ih =>
    have ⟨ha, hr⟩ := List.pairwise_cons.1 hl
    simp only [insertEntry]
    split
    · rename_i hk
      refine List.pairwise_cons.2 ⟨fun b hb => ?_, hl⟩
      rcases List.mem_cons.1 hb with rfl | hb
      · exact hk
      · exact Std.TransCmp.lt_trans hk (ha b hb)
    · rename_i hk
      exact List.pairwise_cons.2
        ⟨fun b hb => Std.TransCmp.lt_of_eq_of_lt hk (ha b hb), hr⟩
    · rename_i hk
      refine List.pairwise_cons.2 ⟨fun b hb => ?_, ih hr⟩
      rcases mem_insertEntry hb with rfl | hb
      · exact Std.OrientedCmp.lt_of_gt hk
      · exact ha b hb

def insert [Std.TransOrd κ] (m : SortedMap κ α) (k : κ) (x : α) : SortedMap κ α :=
  ⟨insertEntry k x m.toList, pairwise_insertEntry k x m.sorted⟩

/-- The map with the given entries added from left to right; at equal keys the last one stays. -/
def insertMany [Std.TransOrd κ] (m : SortedMap κ α) (l : List (κ × α)) : SortedMap κ α :=
  l.foldl (fun m e => m.insert e.1 e.2) m

/-- The map of a list of entries; at equal keys the last one stays. -/
def ofList [Std.TransOrd κ] (l : List (κ × α)) : SortedMap κ α :=
  empty.insertMany l

def ofKeys [Std.TransOrd κ] (l : List κ) : SortedSet κ :=
  ofList (l.map fun k => (k, ()))

/-! ### What an insertion changes -/

theorem find?_insertEntry_self [Std.ReflOrd κ] (k : κ) (x : α) (l : List (κ × α)) :
    ((insertEntry k x l).find? fun e => compare k e.1 == .eq) = some (k, x) := by
  induction l with
  | nil => simp [insertEntry]
  | cons a rest ih =>
    simp only [insertEntry]
    split
    · simp
    · simp
    · rename_i hk
      simp [hk, ih]

theorem find?_insertEntry_of_ne [Std.TransOrd κ] [Std.LawfulEqOrd κ] {j k : κ} (h : j ≠ k) (x : α)
    (l : List (κ × α)) :
    ((insertEntry k x l).find? fun e => compare j e.1 == .eq)
      = l.find? fun e => compare j e.1 == .eq := by
  have hj : compare j k ≠ .eq := fun he => h (Std.LawfulEqOrd.eq_of_compare he)
  induction l with
  | nil => simp [insertEntry, hj]
  | cons a rest ih =>
    simp only [insertEntry]
    split
    · simp [List.find?_cons, hj]
    · rename_i hk
      have ha : k = a.1 := Std.LawfulEqOrd.eq_of_compare hk
      simp [hj, ← ha]
    · simp [List.find?_cons, ih]

@[simp] theorem get?_empty (k : κ) : (empty : SortedMap κ α).get? k = none := rfl

@[simp] theorem get?_insert_self [Std.TransOrd κ] (m : SortedMap κ α) (k : κ) (x : α) :
    (m.insert k x).get? k = some x := by
  simp [get?, insert, find?_insertEntry_self]

theorem get?_insert_of_ne [Std.TransOrd κ] [Std.LawfulEqOrd κ] (m : SortedMap κ α) {j k : κ}
    (h : j ≠ k) (x : α) : (m.insert k x).get? j = m.get? j := by
  simp [get?, insert, find?_insertEntry_of_ne h]

theorem get?_insert [Std.TransOrd κ] [Std.LawfulEqOrd κ] [DecidableEq κ] (m : SortedMap κ α)
    (j k : κ) (x : α) : (m.insert k x).get? j = if j = k then some x else m.get? j := by
  split
  · rename_i h
    rw [h, get?_insert_self]
  · rename_i h
    exact get?_insert_of_ne m h x

end SortedMap

end PbxTemplates
