import Mathlib.Data.List.Chain
import PbxTemplates.Proofs.Resolution.BuildOrder

/-!
# The state of a walk

At every point of a walk its marks, its path and the endpoints that it has built say the same:
`Coherent`. A visit keeps this whatever comes of it, it only adds to what has been built, and what
it adds is reached from the id that it visits. When it succeeds it is back on the path on which it
began and has marked the id with the number that it returns (`visit_progress`).
-/

namespace PbxTemplates.Graph
open Relation

variable {g : Graph} {w w' w'' : Walk} {id : String} {ids ids' : List String}
  {child : Option String} {e : Endpoint} {b : BuiltEndpoint} {i : Nat}

/-- Marks, path and built endpoints agree. The ids in progress are those on the path, each of which
is listed as a parent by the one before. A number marks the endpoint at this place among those
built. -/
structure Coherent (g : Graph) (w : Walk) : Prop where
  order : g.BuildOrder w.built
  nodup : w.path.Nodup
  chain : w.path.IsChain g.catalog.Parent
  inProgress_iff : ∀ id, w.marks.get? id = some .inProgress ↔ id ∈ w.path
  built_iff : ∀ id i, w.marks.get? id = some (.built i) ↔
    ∃ b, w.built[i]? = some b ∧ b.endpoint.id = id

/-- `child` is the end of the path and lists the id as a parent. Without one the path is empty. -/
def Calls (g : Graph) (w : Walk) (id : String) (child : Option String) : Prop :=
  w.path.getLast? = child ∧ ∀ a, child = some a → g.catalog.Parent a id

theorem Calls.parent {path : List String} {p : String} (hpath : w.path = path ++ [id])
    (held : g.catalog.get? id = some e) (hp : p ∈ e.parents) : g.Calls w p (some id) := by
  refine ⟨by rw [hpath]; exact List.getLast?_concat, ?_⟩
  rintro _ ⟨rfl⟩
  exact Catalog.parent_of_mem held hp

theorem Calls.item (hpath : w.path = []) : g.Calls w id none :=
  ⟨by rw [hpath]; rfl, fun _ ha => by cases ha⟩

theorem getElem?_snoc_eq_some_iff {α : Type} {l : List α} {x y : α} {i : Nat} :
    (l ++ [x])[i]? = some y ↔ l[i]? = some y ∨ i = l.length ∧ y = x := by
  rw [List.getElem?_append]
  split
  · rename_i hi
    have : i ≠ l.length := by omega
    simp [this]
  · rename_i hi
    have none : l[i]? = none := List.getElem?_eq_none (by omega)
    rw [none]
    by_cases he : i = l.length
    · simp [he, eq_comm]
    · have : i - l.length ≠ 0 := by omega
      simp [he, this]

/-! ### Single steps -/

theorem coherent_start (g : Graph) : g.Coherent {} where
  order := .nil
  nodup := List.nodup_nil
  chain := .nil
  inProgress_iff id := by simp [EmptyCollection.emptyCollection]
  built_iff id i := by simp [EmptyCollection.emptyCollection]

theorem Coherent.count (h : g.Coherent w) : g.Coherent w.count where
  order := h.order
  nodup := h.nodup
  chain := h.chain
  inProgress_iff := h.inProgress_iff
  built_iff := h.built_iff

theorem Coherent.not_mem_path (h : g.Coherent w) (hm : w.marks.get? id = none) : id ∉ w.path := by
  intro hmem
  rw [(h.inProgress_iff id).mpr hmem] at hm
  cases hm

theorem Coherent.not_mem_built (h : g.Coherent w) (hm : ∀ i, w.marks.get? id ≠ some (.built i))
    (hb : b ∈ w.built) : b.endpoint.id ≠ id := by
  intro hid
  obtain ⟨i, hi⟩ := List.mem_iff_getElem?.mp hb
  exact hm i ((h.built_iff id i).mpr ⟨b, hi, hid⟩)

theorem Coherent.enter (h : g.Coherent w) (hc : g.Calls w id child)
    (hm : w.marks.get? id = none) : g.Coherent (w.enter id) := by
  have hid : id ∉ w.path := h.not_mem_path hm
  refine ⟨h.order, ?_, ?_, ?_, ?_⟩
  · refine List.nodup_append.mpr ⟨h.nodup, List.nodup_singleton id, ?_⟩
    intro a ha b hb hab
    exact hid (List.mem_singleton.mp hb ▸ hab ▸ ha)
  · refine h.chain.append (List.isChain_singleton id) ?_
    intro a ha b hb
    have hb : id = b := by simpa using hb
    exact hb ▸ hc.2 a (hc.1.symm.trans ha)
  · intro a
    by_cases ha : a = id
    · simp [Walk.enter, ha]
    · simp [Walk.enter, SortedMap.get?_insert, ha, h.inProgress_iff]
  · intro a i
    by_cases ha : a = id
    · have fresh : ¬ ∃ b, w.built[i]? = some b ∧ b.endpoint.id = id := by
        rw [← h.built_iff, hm]
        simp
      simpa [Walk.enter, ha] using fresh
    · simp [Walk.enter, SortedMap.get?_insert, ha, h.built_iff]

theorem Coherent.leave {path : List String} (h : g.Coherent w) (hpath : w.path = path ++ [id])
    (order : g.BuildOrder (w.built ++ [b])) (hb : b.endpoint.id = id) :
    g.Coherent (w.leave id b) := by
  have split : (path ++ [id]).Nodup ∧ (path ++ [id]).IsChain g.catalog.Parent :=
    hpath ▸ ⟨h.nodup, h.chain⟩
  have hid : id ∉ path := by
    intro hmem
    exact (List.nodup_append.mp split.1).2.2 id hmem id (List.mem_singleton_self id) rfl
  have back : (w.leave id b).path = path := by simp [Walk.leave, hpath]
  refine ⟨order, ?_, ?_, ?_, ?_⟩
  -- the path only loses its end
  · rw [back]
    exact (List.nodup_append.mp split.1).1
  · rw [back]
    exact (List.isChain_append.mp split.2).1
  · intro a
    rw [back]
    by_cases ha : a = id
    · simp [Walk.leave, ha, hid]
    · simp [Walk.leave, SortedMap.get?_insert, ha, h.inProgress_iff, hpath]
  · intro a i
    have hmark : w.marks.get? id = some .inProgress :=
      (h.inProgress_iff id).mpr (hpath ▸ List.mem_append_right path (List.mem_singleton_self id))
    have places : ∀ b', (w.built ++ [b])[i]? = some b' ↔
        w.built[i]? = some b' ∨ i = w.built.length ∧ b' = b := fun b' => getElem?_snoc_eq_some_iff
    by_cases ha : a = id
    · -- the id was in progress, so no earlier place is its own
      have fresh : ¬ ∃ b', w.built[i]? = some b' ∧ b'.endpoint.id = id := by
        rw [← h.built_iff, hmark]
        simp
      have here : (∃ b', (w.built ++ [b])[i]? = some b' ∧ b'.endpoint.id = id) ↔
          i = w.built.length := by
        constructor
        · rintro ⟨b', hb', hid'⟩
          rcases (places b').mp hb' with hb' | ⟨hi, _⟩
          · exact absurd ⟨b', hb', hid'⟩ fresh
          · exact hi
        · intro hi
          exact ⟨b, (places b).mpr (.inr ⟨hi, rfl⟩), hb⟩
      rw [ha, Walk.leave, here]
      simp [eq_comm]
    · have other : (∃ b', (w.built ++ [b])[i]? = some b' ∧ b'.endpoint.id = a) ↔
          ∃ b', w.built[i]? = some b' ∧ b'.endpoint.id = a := by
        constructor
        · rintro ⟨b', hb', hid'⟩
          rcases (places b').mp hb' with hb' | ⟨_, rfl⟩
          · exact ⟨b', hb', hid'⟩
          · exact absurd (hid'.symm.trans hb) ha
        · rintro ⟨b', hb', hid'⟩
          exact ⟨b', (places b').mpr (.inl hb'), hid'⟩
      rw [Walk.leave, other, ← h.built_iff]
      simp [SortedMap.get?_insert, ha]

/-! ### Progress -/

/-- What visits to the given ids do to a state: it stays coherent, and endpoints that the ids reach
are added to those built. -/
structure Progress (g : Graph) (ids : List String) (w w' : Walk) : Prop where
  coherent : g.Coherent w'
  built : w.built <+: w'.built
  origin : ∀ b ∈ w'.built, b ∈ w.built ∨ ∃ id ∈ ids, g.catalog.Reaches id b.endpoint.id

theorem Progress.stay (h : g.Coherent w') (hb : w'.built = w.built) : g.Progress ids w w' where
  coherent := h
  built := hb ▸ List.prefix_refl w.built
  origin _ hmem := .inl (hb ▸ hmem)

theorem Progress.trans (h : g.Progress ids w w') (h' : g.Progress ids w' w'') :
    g.Progress ids w w'' where
  coherent := h'.coherent
  built := h.built.trans h'.built
  origin b hb := by
    rcases h'.origin b hb with hb | hr
    · exact h.origin b hb
    · exact .inr hr

theorem Progress.of_reaches (h : g.Progress ids w w')
    (hr : ∀ a ∈ ids, ∃ id ∈ ids', g.catalog.Reaches id a) : g.Progress ids' w w' where
  coherent := h.coherent
  built := h.built
  origin b hb := by
    rcases h.origin b hb with hb | ⟨a, ha, hab⟩
    · exact .inl hb
    · obtain ⟨id, hid, hia⟩ := hr a ha
      exact .inr ⟨id, hid, ReflTransGen.trans hia hab⟩

theorem Progress.mono (h : g.Progress ids w w') (sub : ids ⊆ ids') : g.Progress ids' w w' :=
  h.of_reaches fun a ha => ⟨a, sub ha, Catalog.Reaches.refl g.catalog a⟩

theorem Progress.leave (h : g.Coherent (w.leave id b)) (hb : b.endpoint.id = id) :
    g.Progress [id] w (w.leave id b) where
  coherent := h
  built := List.prefix_append w.built [b]
  origin b' hb' := by
    rcases List.mem_append.mp hb' with hb' | hb'
    · exact .inl hb'
    · rw [List.mem_singleton.mp hb', hb]
      exact .inr ⟨id, List.mem_singleton_self id, Catalog.Reaches.refl g.catalog id⟩

theorem Progress.mark (h : g.Progress ids w w') (hw : g.Coherent w)
    (hm : w.marks.get? id = some (.built i)) : w'.marks.get? id = some (.built i) := by
  obtain ⟨b, hb, hid⟩ := (hw.built_iff id i).mp hm
  obtain ⟨later, hbuilt⟩ := h.built
  have kept : w'.built[i]? = some b := by
    rw [← hbuilt, List.getElem?_append_left (List.getElem?_eq_some_iff.mp hb).1, hb]
  exact (h.coherent.built_iff id i).mpr ⟨b, kept, hid⟩

theorem Coherent.hasBody (h : g.Coherent w) (hm : w.marks.get? id = some (.built i)) :
    HasBody w.built id ((w.built[i]?.map (·.body)).getD {}) := by
  obtain ⟨b, hb, hid⟩ := (h.built_iff id i).mp hm
  exact ⟨b, List.mem_of_getElem? hb, hid, by simp [hb]⟩

/-! ### What a visit can do -/

/-- The ways in which a visit with one unit of fuel more than `fuel` can end. -/
inductive VisitStep (g : Graph) (fuel : Nat) (id : String) (child : Option String) (w : Walk) :
    Except ResolutionError Nat → Walk → Prop
  | known {i : Nat} (mark : w.marks.get? id = some (.built i)) :
      VisitStep g fuel id child w (.ok i) w.count
  | cycle (mark : w.marks.get? id = some .inProgress) :
      VisitStep g fuel id child w (.error (.inheritanceCycle (w.cycle id))) w.count
  | missing (mark : w.marks.get? id = none) (none : g.catalog.get? id = none) :
      VisitStep g fuel id child w (.error (absent id child)) w.count
  | failed {e : Endpoint} {err : ResolutionError} {w' : Walk} (mark : w.marks.get? id = none)
      (held : g.catalog.get? id = some e)
      (parents : visitAll (fun p => g.visit fuel p (some id)) e.parents (w.count.enter id)
        = some (.error err, w')) :
      VisitStep g fuel id child w (.error err) w'
  | built {e : Endpoint} {is : List Nat} {w' : Walk} (mark : w.marks.get? id = none)
      (held : g.catalog.get? id = some e)
      (parents : visitAll (fun p => g.visit fuel p (some id)) e.parents (w.count.enter id)
        = some (.ok is, w')) :
      VisitStep g fuel id child w (.ok w'.built.length)
        (w'.leave id (.ofParents g.canonicalizer e (g.owners.get? id) (w'.bodies is)))

theorem visit_step {fuel : Nat} {r : Except ResolutionError Nat}
    (h : g.visit (fuel + 1) id child w = some (r, w')) : g.VisitStep fuel id child w r w' := by
  simp only [visit] at h
  split at h
  · rename_i i mark
    cases h
    exact .known mark
  · rename_i mark
    cases h
    exact .cycle mark
  · rename_i mark
    split at h
    · rename_i none
      cases h
      exact .missing mark none
    · rename_i e held
      split at h
      · cases h
      · rename_i parents
        cases h
        exact .failed mark held parents
      · rename_i parents
        cases h
        exact .built mark held parents

/-- The ways in which visits to a list of ids that is not empty can end. -/
inductive VisitAllStep (visit : String → Walk → Option (Outcome Nat)) (id : String)
    (ids : List String) (w : Walk) : Except ResolutionError (List Nat) → Walk → Prop
  | first {err : ResolutionError} {w' : Walk} (head : visit id w = some (.error err, w')) :
      VisitAllStep visit id ids w (.error err) w'
  | later {i : Nat} {err : ResolutionError} {w₁ w' : Walk} (head : visit id w = some (.ok i, w₁))
      (tail : visitAll visit ids w₁ = some (.error err, w')) :
      VisitAllStep visit id ids w (.error err) w'
  | all {i : Nat} {is : List Nat} {w₁ w' : Walk} (head : visit id w = some (.ok i, w₁))
      (tail : visitAll visit ids w₁ = some (.ok is, w')) :
      VisitAllStep visit id ids w (.ok (i :: is)) w'

theorem visitAll_step {visit : String → Walk → Option (Outcome Nat)}
    {r : Except ResolutionError (List Nat)} (h : visitAll visit (id :: ids) w = some (r, w')) :
    VisitAllStep visit id ids w r w' := by
  simp only [visitAll] at h
  split at h
  · cases h
  · rename_i head
    cases h
    exact .first head
  · rename_i head
    split at h
    · cases h
    · rename_i tail
      cases h
      exact .later head tail
    · rename_i tail
      cases h
      exact .all head tail

/-! ### Visits -/

/-- Once the parents have been visited, the endpoint at the end of the path can be built. -/
theorem Coherent.build {path : List String} {is : List Nat} (h : g.Coherent w)
    (hpath : w.path = path ++ [id]) (held : g.catalog.get? id = some e)
    (parents : List.Forall₂ (fun p i => w.marks.get? p = some (.built i)) e.parents is) :
    g.Coherent (w.leave id (.ofParents g.canonicalizer e (g.owners.get? id) (w.bodies is))) := by
  have hid : e.id = id := Catalog.id_of_get?_eq_some held
  have mark : w.marks.get? id = some .inProgress :=
    (h.inProgress_iff id).mpr (hpath ▸ List.mem_append_right path (List.mem_singleton_self id))
  have fresh : ∀ b ∈ w.built, b.endpoint.id ≠ e.id := by
    intro b hb
    rw [hid]
    exact h.not_mem_built (fun i hi => by rw [mark] at hi; cases hi) hb
  have bodies : List.Forall₂ (HasBody w.built) e.parents (w.bodies is) :=
    List.forall₂_map_right_iff.mpr (parents.imp fun _ _ hm => h.hasBody hm)
  refine h.leave hpath ?_ hid
  exact hid ▸ h.order.snoc (hid.symm ▸ held) fresh bodies

/-- Visits to the id from coherent states with the given path keep the state coherent. One that
succeeds is back on the path, and its number marks the id. -/
def KeepsCoherent (g : Graph) (path : List String) (id : String)
    (visit : Walk → Option (Outcome Nat)) : Prop :=
  ∀ w, g.Coherent w → w.path = path → ∀ r w', visit w = some (r, w') →
    g.Progress [id] w w' ∧ ∀ i, r = .ok i → w'.path = path ∧ w'.marks.get? id = some (.built i)

theorem visitAll_progress {visit : String → Walk → Option (Outcome Nat)} {path : List String}
    {r : Except ResolutionError (List Nat)} (step : ∀ id ∈ ids, g.KeepsCoherent path id (visit id))
    (hw : g.Coherent w) (hpath : w.path = path) (h : visitAll visit ids w = some (r, w')) :
    g.Progress ids w w' ∧ ∀ is, r = .ok is → w'.path = path ∧
      List.Forall₂ (fun id i => w'.marks.get? id = some (.built i)) ids is := by
  induction ids generalizing w w' r with
  | nil =>
    obtain ⟨rfl, rfl⟩ : Except.ok [] = r ∧ w = w' := by simpa [visitAll] using h
    refine ⟨.stay hw rfl, ?_⟩
    rintro is ⟨rfl⟩
    exact ⟨hpath, .nil⟩
  | cons id ids ih =>
    have rest : ∀ id ∈ ids, g.KeepsCoherent path id (visit id) := fun id hid =>
      step id (List.mem_cons_of_mem _ hid)
    cases visitAll_step h with
    | first head =>
      obtain ⟨hp, _⟩ := step id List.mem_cons_self w hw hpath _ _ head
      exact ⟨hp.mono (by simp), fun is his => by cases his⟩
    | later head tail =>
      obtain ⟨hp, hok⟩ := step id List.mem_cons_self w hw hpath _ _ head
      obtain ⟨hp', _⟩ := ih rest hp.coherent (hok _ rfl).1 tail
      exact ⟨(hp.mono (by simp)).trans (hp'.mono (by simp)), fun is his => by cases his⟩
    | all head tail =>
      obtain ⟨hp, hok⟩ := step id List.mem_cons_self w hw hpath _ _ head
      obtain ⟨hpath', hm⟩ := hok _ rfl
      obtain ⟨hp', hok'⟩ := ih rest hp.coherent hpath' tail
      refine ⟨(hp.mono (by simp)).trans (hp'.mono (by simp)), ?_⟩
      -- the number of the first id still marks it after the visits to the others
      rintro _ ⟨rfl⟩
      obtain ⟨hpath'', hms⟩ := hok' _ rfl
      exact ⟨hpath'', .cons (hp'.mark hp.coherent hm) hms⟩

/-- A visit keeps the state coherent whatever comes of it. If it succeeds, it is back on the path on
which it began, and its number marks the id. -/
theorem visit_progress {fuel : Nat} {r : Except ResolutionError Nat} (hw : g.Coherent w)
    (hc : g.Calls w id child) (h : g.visit fuel id child w = some (r, w')) :
    g.Progress [id] w w' ∧
      ∀ i, r = .ok i → w'.path = w.path ∧ w'.marks.get? id = some (.built i) := by
  induction fuel generalizing id child w w' r with
  | zero => cases h
  | succ fuel ih =>
    -- the state in which the parents are visited, and what their visits do to it
    have entered : ∀ e, w.marks.get? id = none → g.catalog.get? id = some e → ∀ r₁ w₁,
        visitAll (fun p => g.visit fuel p (some id)) e.parents (w.count.enter id) = some (r₁, w₁) →
        g.Progress e.parents (w.count.enter id) w₁ ∧ ∀ is, r₁ = .ok is → w₁.path = w.path ++ [id] ∧
          List.Forall₂ (fun id i => w₁.marks.get? id = some (.built i)) e.parents is := by
      intro e mark held r₁ w₁ parents
      refine visitAll_progress ?_ (hw.count.enter hc mark) rfl parents
      intro p hp w₂ hw₂ hpath r₂ w₃ hv
      have := ih hw₂ (.parent hpath held hp) hv
      rwa [hpath] at this
    have below : ∀ {e w₁}, g.catalog.get? id = some e →
        g.Progress e.parents (w.count.enter id) w₁ → g.Progress [id] w w₁ := by
      intro e w₁ held hp
      have hp : g.Progress e.parents w w₁ := ⟨hp.coherent, hp.built, hp.origin⟩
      refine hp.of_reaches fun p hpe => ⟨id, List.mem_singleton_self id, ?_⟩
      exact ReflTransGen.single (Catalog.parent_of_mem held hpe)
    cases visit_step h with
    | known mark =>
      refine ⟨.stay hw.count rfl, ?_⟩
      rintro _ ⟨rfl⟩
      exact ⟨rfl, mark⟩
    | cycle _ => exact ⟨.stay hw.count rfl, fun i hi => by cases hi⟩
    | missing _ _ => exact ⟨.stay hw.count rfl, fun i hi => by cases hi⟩
    | failed mark held parents =>
      obtain ⟨hp, _⟩ := entered _ mark held _ _ parents
      exact ⟨below held hp, fun i hi => by cases hi⟩
    | built mark held parents =>
      obtain ⟨hp, hok⟩ := entered _ mark held _ _ parents
      obtain ⟨hpath, hms⟩ := hok _ rfl
      have left := hp.coherent.build hpath held hms
      refine ⟨(below held hp).trans (.leave left (Catalog.id_of_get?_eq_some held)), ?_⟩
      rintro _ ⟨rfl⟩
      exact ⟨by simp [Walk.leave, hpath], by simp [Walk.leave]⟩

theorem keepsCoherent_parent {fuel : Nat} {path : List String} {p : String}
    (held : g.catalog.get? id = some e) (hp : p ∈ e.parents) :
    g.KeepsCoherent (path ++ [id]) p (g.visit fuel p (some id)) := by
  intro w hw hpath r w' h
  have := visit_progress hw (.parent hpath held hp) h
  rwa [hpath] at this

theorem keepsCoherent_item {fuel : Nat} : g.KeepsCoherent [] id (g.visit fuel id none) := by
  intro w hw hpath r w' h
  have := visit_progress hw (.item hpath) h
  rwa [hpath] at this

/-! ### Whole walks -/

theorem walk_eq (g : Graph) (ids : List String) :
    visitAll (fun id => g.visit g.fuel id none) ids {} = some (g.walk ids) :=
  (Option.some_get (g.isSome_walkWithin ids {})).symm

theorem walk_progress (g : Graph) (ids : List String) :
    g.Progress ids {} (g.walk ids).2 ∧ ∀ is, (g.walk ids).1 = .ok is → (g.walk ids).2.path = [] ∧
      List.Forall₂ (fun id i => (g.walk ids).2.marks.get? id = some (.built i)) ids is :=
  visitAll_progress (fun _ _ => keepsCoherent_item) g.coherent_start rfl (g.walk_eq ids)

/-- A walk that succeeds has built what the ids reach from which it starts. -/
theorem mem_walk_iff {is : List Nat} (h : (g.walk ids).1 = .ok is) (a : String) :
    (∃ b ∈ (g.walk ids).2.built, b.endpoint.id = a) ↔ ∃ id ∈ ids, g.catalog.Reaches id a := by
  obtain ⟨hp, hok⟩ := g.walk_progress ids
  -- nothing was built at the start, and each id has been marked with a number at the end
  constructor
  · rintro ⟨b, hb, rfl⟩
    rcases hp.origin b hb with start | reached
    · cases start
    · exact reached
  · rintro ⟨id, hid, ha⟩
    obtain ⟨i, _, mark⟩ := exists_of_forall₂ (hok is h).2 hid
    obtain ⟨b, hb, rfl⟩ := (hp.coherent.built_iff id i).mp mark
    exact hp.coherent.order.reaches_mem (List.mem_of_getElem? hb) ha

end PbxTemplates.Graph
