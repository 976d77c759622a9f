import Mathlib.Algebra.BigOperators.Finprod
import PbxTemplates.Proofs.Resolution.Inventory
import PbxTemplates.Proofs.Resolution.Run

/-!
# How many visits a walk takes

An endpoint is marked before its parents are visited and stays marked, so a walk goes through the
parents of an endpoint once, whatever comes of it. Each visit is therefore one of an item or one
place in a list of parents.

Main statement: `visits_bounded`, which also says that visits come to an end in every graph.
-/

namespace PbxTemplates
namespace Walk

/-! ### Entries and expansions -/

def Event.isEntry : Event → Bool
  | .entry .. => true
  | _ => false

def Event.expanded? : Event → Option Endpoint
  | .expand e => some e
  | _ => none

def entries (log : List Event) : Nat := log.countP (·.isEntry)

def expanded (log : List Event) : List Endpoint := log.filterMap (·.expanded?)

@[simp] theorem entries_append (log log' : List Event) :
    entries (log ++ log') = entries log + entries log' := List.countP_append

@[simp] theorem expanded_append (log log' : List Event) :
    expanded (log ++ log') = expanded log ++ expanded log' := List.filterMap_append

@[simp] theorem entries_entry (id : String) (child : Option String) (w : Walk) (log : List Event) :
    entries (.entry id child w :: log) = entries log + 1 := List.countP_cons_of_pos rfl

@[simp] theorem entries_expand (e : Endpoint) (log : List Event) :
    entries (.expand e :: log) = entries log := List.countP_cons_of_neg (by simp [Event.isEntry])

@[simp] theorem expanded_entry (id : String) (child : Option String) (w : Walk)
    (log : List Event) : expanded (.entry id child w :: log) = expanded log := rfl

@[simp] theorem expanded_expand (e : Endpoint) (log : List Event) :
    expanded (.expand e :: log) = e :: expanded log := rfl

theorem Keeps.eq_none {w w' : Walk} {id : String} (h : Keeps w w')
    (unmarked : w'.marks.get? id = none) : w.marks.get? id = none := by
  by_contra marked
  have kept := h id (Option.isSome_iff_ne_none.mpr marked)
  rw [unmarked] at kept
  cases kept

end Walk

namespace Graph
open Walk (Event entries expanded)

variable {g : Graph} {w w₁ w' : Walk} {id : String} {ids ids' : List String}
  {child : Option String} {e : Endpoint} {log log' : List Event}

/-! ### The tally of a run -/

/-- What the events of visits to the ids come to, if the visits lead from the first state to the
second. -/
structure Tally (g : Graph) (ids : List String) (w w' : Walk) (log : List Event) : Prop where
  visits : w'.visits = w.visits + entries log
  /-- A visit is one to the ids or one to a parent of an endpoint that is expanded. -/
  entries_le : entries log ≤ ids.length + ((expanded log).map (·.parents.length)).sum
  keeps : Walk.Keeps w w'
  nodup : ((expanded log).map (·.id)).Nodup
  unmarked : ∀ e ∈ expanded log, w.marks.get? e.id = none
  marked : ∀ e ∈ expanded log, (w'.marks.get? e.id).isSome
  held : ∀ e ∈ expanded log, g.catalog.get? e.id = some e
  reached : ∀ e ∈ expanded log, ∃ id ∈ ids, g.catalog.Reaches id e.id

theorem Tally.flat (none : expanded log = []) (le : entries log ≤ ids.length)
    (keeps : Walk.Keeps w w') (visits : w'.visits = w.visits + entries log) :
    g.Tally ids w w' log := by
  refine ⟨visits, by omega, keeps, ?_, ?_, ?_, ?_, ?_⟩ <;> simp [none]

theorem Tally.append (h : g.Tally ids w w₁ log) (h' : g.Tally ids' w₁ w' log') :
    g.Tally (ids ++ ids') w w' (log ++ log') where
  visits := by rw [h'.visits, h.visits, Walk.entries_append, Nat.add_assoc]
  entries_le := by
    have := h.entries_le
    have := h'.entries_le
    simp only [Walk.entries_append, Walk.expanded_append, List.map_append, List.sum_append,
      List.length_append]
    omega
  keeps := h.keeps.trans h'.keeps
  nodup := by
    rw [Walk.expanded_append, List.map_append, List.nodup_append]
    refine ⟨h.nodup, h'.nodup, ?_⟩
    intro a ha b hb hab
    obtain ⟨d, hd, rfl⟩ := List.mem_map.mp ha
    obtain ⟨e, he, rfl⟩ := List.mem_map.mp hb
    -- the first part has marked it, so the second one cannot expand it
    have marked := h.marked d hd
    rw [hab, h'.unmarked e he] at marked
    cases marked
  unmarked := by
    rw [Walk.expanded_append, List.forall_mem_append]
    exact ⟨h.unmarked, fun e he => h.keeps.eq_none (h'.unmarked e he)⟩
  marked := by
    rw [Walk.expanded_append, List.forall_mem_append]
    exact ⟨fun e he => h'.keeps e.id (h.marked e he), h'.marked⟩
  held := by
    rw [Walk.expanded_append, List.forall_mem_append]
    exact ⟨h.held, h'.held⟩
  reached := by
    rw [Walk.expanded_append, List.forall_mem_append]
    constructor
    · intro e he
      obtain ⟨id, hid, reached⟩ := h.reached e he
      exact ⟨id, List.mem_append_left _ hid, reached⟩
    · intro e he
      obtain ⟨id, hid, reached⟩ := h'.reached e he
      exact ⟨id, List.mem_append_right _ hid, reached⟩

theorem Tally.expand (mark : w.marks.get? id = none) (here : g.catalog.get? id = some e)
    (h : g.Tally e.parents (w.count.enter id) w' log) :
    g.Tally (id :: ids) w w' (.entry id child w :: .expand e :: log) := by
  have hid : e.id = id := Catalog.id_of_get?_eq_some here
  have keeps : Walk.Keeps w (w.count.enter id) := Walk.keeps_enter w.count id
  have entered : ((w.count.enter id).marks.get? id).isSome := by simp [Walk.enter]
  refine ⟨?_, ?_, keeps.trans h.keeps, ?_, ?_, ?_, ?_, ?_⟩
  · have := h.visits
    simp only [Walk.enter, Walk.count] at this
    simp only [Walk.entries_entry, Walk.entries_expand]
    omega
  · have := h.entries_le
    simp only [Walk.entries_entry, Walk.entries_expand, Walk.expanded_entry, Walk.expanded_expand,
      List.map_cons, List.sum_cons, List.length_cons]
    omega
  · refine List.nodup_cons.mpr ⟨fun again => ?_, h.nodup⟩
    -- the id is marked when its parents are visited
    obtain ⟨d, hd, same⟩ := List.mem_map.mp again
    have unmarked := h.unmarked d hd
    rw [same.trans hid] at unmarked
    rw [unmarked] at entered
    cases entered
  · exact List.forall_mem_cons.mpr ⟨hid ▸ mark, fun d hd => keeps.eq_none (h.unmarked d hd)⟩
  · exact List.forall_mem_cons.mpr ⟨hid ▸ h.keeps id entered, h.marked⟩
  · exact List.forall_mem_cons.mpr ⟨hid ▸ here, h.held⟩
  · refine List.forall_mem_cons.mpr
      ⟨⟨id, List.mem_cons_self, hid ▸ Catalog.Reaches.refl g.catalog id⟩, fun d hd => ?_⟩
    obtain ⟨p, hp, reached⟩ := h.reached d hd
    exact ⟨id, List.mem_cons_self, reached.of_parent (Catalog.parent_of_mem here hp)⟩

theorem Run.tally {r : Except ResolutionError (List Nat)} (run : g.Run child ids w r w' log) :
    g.Tally ids w w' log := by
  induction run with
  | @done child w => exact .flat rfl (Nat.le_refl 0) (Walk.Keeps.refl w) rfl
  | @known child id ids w w' i r log mark _ ih =>
    have visit : g.Tally [id] w w.count [.entry id child w, .exit id w i w.count] :=
      .flat rfl (Nat.le_refl 1) (Walk.keeps_count w) rfl
    exact visit.append ih
  | @cycle _ _ ids w _ =>
    exact .flat rfl (Nat.le_add_left 1 ids.length) (Walk.keeps_count w) rfl
  | @missing _ _ ids w _ _ =>
    exact .flat rfl (Nat.le_add_left 1 ids.length) (Walk.keeps_count w) rfl
  | failed mark held _ ih => exact ih.expand mark held
  | @built child id ids w w₁ w' e is r log log' mark held _ _ ihParents ihRest =>
    have visit : g.Tally [id] w w₁ (.entry id child w :: .expand e :: log) :=
      ihParents.expand mark held
    have finish : g.Tally [] w₁ (g.finish w₁ id e is) (is.map (.read · w₁) ++
        [.exit id w w₁.built.length (g.finish w₁ id e is)]) := by
      refine .flat ?_ ?_ (Walk.keeps_leave w₁ id _) ?_
      · simp [expanded, Event.expanded?]
      · simp [entries, Event.isEntry, List.countP_map, Function.comp_def]
      · simp [entries, Event.isEntry, List.countP_map, Function.comp_def, finish, Walk.leave]
    simpa using (visit.append finish).append ihRest

end Graph

/-! ### Resolutions -/

section
open Walk (entries expanded)

theorem sum_le_finsum {α : Type} [DecidableEq α] {l : List α} {s : Set α} (finite : s.Finite)
    (nodup : l.Nodup) (sub : ∀ x ∈ l, x ∈ s) (f : α → Nat) :
    (l.map f).sum ≤ ∑ᶠ x ∈ s, f x := by
  rw [finsum_mem_eq_finite_toFinset_sum f finite, ← List.sum_toFinset f nodup]
  refine Finset.sum_le_sum_of_subset fun x hx => ?_
  exact finite.mem_toFinset.mpr (sub x (List.mem_toFinset.mp hx))

theorem Catalog.finite_reached (catalog : Catalog) (items : List Item) :
    (catalog.reached items).Finite := by
  refine catalog.endpoints.finite_toSet.subset fun e he => ?_
  exact List.mem_of_find?_eq_some he.1

/-- Visits come to an end in every graph, in one way, and a bound on their depth of one more than
there are endpoints changes nothing. In the walk of a resolution the parents of an endpoint are gone
through once at most, so there are no more visits than items and entries in the lists of parents of
the endpoints that the items reach. -/
theorem visits_bounded (c : Canonicalizer) (catalog : Catalog) (owners : OwnerTable)
    (items : List Item) :
    let g : Graph := ⟨c, catalog, owners⟩
    (∀ id child w, ∃ r w' log, g.OnlyRun child [id] w (r.map ([·])) w' log ∧
      ∀ fuel, catalog.size + 1 ≤ fuel → g.visit fuel id child w = some (r, w')) ∧
    ∃ r w log, itemWalk c catalog owners items = (r, w) ∧
      g.OnlyRun none (items.map (·.endpoint)) {} r w log ∧
      ((expanded log).map (·.id)).Nodup ∧
      (∀ e ∈ expanded log, e ∈ catalog.reached items) ∧
      w.visits = entries log ∧
      w.visits ≤ items.length + ((expanded log).map (·.parents.length)).sum ∧
      w.visits ≤ items.length + ∑ᶠ e ∈ catalog.reached items, e.parents.length := by
  intro g
  refine ⟨g.exists_visit_run, ?_⟩
  obtain ⟨log, run⟩ := g.exists_walk_run (items.map (·.endpoint))
  have tally := run.1.tally
  have visits : (itemWalk c catalog owners items).2.visits = entries log := by
    have := tally.visits
    simpa [itemWalk] using this
  have reached : ∀ e ∈ expanded log, e ∈ catalog.reached items := by
    intro e he
    obtain ⟨id, hid, ancestor⟩ := tally.reached e he
    obtain ⟨i, hi, rfl⟩ := List.mem_map.mp hid
    exact ⟨tally.held e he, i, hi, ancestor⟩
  have bound : (itemWalk c catalog owners items).2.visits
      ≤ items.length + ((expanded log).map (·.parents.length)).sum := by
    have := tally.entries_le
    rwa [List.length_map, ← visits] at this
  have total := sum_le_finsum (catalog.finite_reached items) (List.Nodup.of_map _ tally.nodup)
    reached (·.parents.length)
  exact ⟨_, _, log, rfl, run, tally.nodup, reached, visits, bound,
    bound.trans (Nat.add_le_add_left total _)⟩

/-- Two items and six parents of what they reach: the bound is met, although the walk fails. -/
example : (itemWalk .standard tangled ∅ [⟨"desk", .trunk {}⟩, ⟨"lobby", .trunk {}⟩]).2.visits = 8 :=
  rfl

end

end PbxTemplates
