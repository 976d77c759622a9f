import PbxTemplates.Proofs.Resolution.WalkState

/-!
# Runs of the walk

`Graph.visit` recurses with a bound on its depth. `Graph.Run` tells how visits go when nothing
bounds them, and what happens in their course: where visits begin and return, for which endpoints
the parents are gone through, what is looked up on the path and among the built endpoints.

Main statements: every run ends as the bounded visits do (`run_iff`), and it goes in one way only
(`Run.unique`).
-/

namespace PbxTemplates

/-- What happens in the course of visits. -/
inductive Walk.Event where
  /-- A visit to the id begins in the given state. -/
  | entry (id : String) (child : Option String) (w : Walk)
  /-- The parents of the endpoint are about to be visited. -/
  | expand (e : Endpoint)
  /-- The place of the id on the path is looked for. -/
  | search (id : String) (w : Walk)
  /-- The body of the built endpoint of this number is read. -/
  | read (i : Nat) (w : Walk)
  /-- The visit to the id that began in the first state returns this number in the second. -/
  | exit (id : String) (w : Walk) (i : Nat) (w' : Walk)

namespace Graph
open Walk (Event)

/-- The state after the endpoint at the end of the path is built. The numbers are its parents'. -/
def finish (g : Graph) (w : Walk) (id : String) (e : Endpoint) (is : List Nat) : Walk :=
  w.leave id (.ofParents g.canonicalizer e (g.owners.get? id) (w.bodies is))

/-- How visits to a list of ids go, one after the other and with no bound on their depth: the
numbers that they return or the first error, the state in which they leave the walk, and what
happens on the way. -/
inductive Run (g : Graph) : Option String → List String → Walk →
    Except ResolutionError (List Nat) → Walk → List Event → Prop
  | done {child : Option String} {w : Walk} : Run g child [] w (.ok []) w []
  | known {child : Option String} {id : String} {ids : List String} {w w' : Walk} {i : Nat}
      {r : Except ResolutionError (List Nat)} {log : List Event}
      (mark : w.marks.get? id = some (.built i)) (rest : Run g child ids w.count r w' log) :
      Run g child (id :: ids) w (r.map (i :: ·)) w'
        (.entry id child w :: .exit id w i w.count :: log)
  | cycle {child : Option String} {id : String} {ids : List String} {w : Walk}
      (mark : w.marks.get? id = some .inProgress) :
      Run g child (id :: ids) w (.error (.inheritanceCycle (w.cycle id))) w.count
        [.entry id child w, .search id w]
  | missing {child : Option String} {id : String} {ids : List String} {w : Walk}
      (mark : w.marks.get? id = none) (none : g.catalog.get? id = none) :
      Run g child (id :: ids) w (.error (absent id child)) w.count [.entry id child w]
  | failed {child : Option String} {id : String} {ids : List String} {w w' : Walk} {e : Endpoint}
      {err : ResolutionError} {log : List Event}
      (mark : w.marks.get? id = none) (held : g.catalog.get? id = some e)
      (parents : Run g (some id) e.parents (w.count.enter id) (.error err) w' log) :
      Run g child (id :: ids) w (.error err) w' (.entry id child w :: .expand e :: log)
  | built {child : Option String} {id : String} {ids : List String} {w w₁ w' : Walk}
      {e : Endpoint} {is : List Nat} {r : Except ResolutionError (List Nat)} {log log' : List Event}
      (mark : w.marks.get? id = none) (held : g.catalog.get? id = some e)
      (parents : Run g (some id) e.parents (w.count.enter id) (.ok is) w₁ log)
      (rest : Run g child ids (g.finish w₁ id e is) r w' log') :
      Run g child (id :: ids) w (r.map (w₁.built.length :: ·)) w'
        (.entry id child w :: .expand e :: log ++ is.map (.read · w₁) ++
          .exit id w w₁.built.length (g.finish w₁ id e is) :: log')

variable {g : Graph} {w w' w'' : Walk} {id : String} {ids : List String} {child : Option String}
  {log log' : List Event} {fuel : Nat} {r r' : Except ResolutionError (List Nat)}

/-- Bounded visits that do not run out of fuel go as unbounded ones. -/
theorem exists_run (h : visitAll (fun id => g.visit fuel id child) ids w = some (r, w')) :
    ∃ log, g.Run child ids w r w' log := by
  -- on the fuel for visits to parents, and with a given amount of it on the list
  induction fuel generalizing ids child w w' r with
  | zero =>
    cases ids with
    | nil =>
      cases h
      exact ⟨[], .done⟩
    | cons id ids => cases h
  | succ fuel deeper =>
    induction ids generalizing w w' r with
    | nil =>
      cases h
      exact ⟨[], .done⟩
    | cons id ids next =>
      -- what follows a visit that returns
      have after : ∀ {i : Nat} {w₁ : Walk} {r₁ : Except ResolutionError (List Nat)},
          g.visit (fuel + 1) id child w = some (.ok i, w₁) →
          visitAll (fun id => g.visit (fuel + 1) id child) ids w₁ = some (r₁, w') →
          ∃ log, g.Run child (id :: ids) w (r₁.map (i :: ·)) w' log := by
        intro i w₁ r₁ head tail
        obtain ⟨log', rest⟩ := next tail
        cases visit_step head with
        | known mark => exact ⟨_, .known mark rest⟩
        | built mark held parents =>
          obtain ⟨log, parents⟩ := deeper parents
          exact ⟨_, .built mark held parents rest⟩
      cases visitAll_step h with
      | first head =>
        cases visit_step head with
        | cycle mark => exact ⟨_, .cycle mark⟩
        | missing mark none => exact ⟨_, .missing mark none⟩
        | failed mark held parents =>
          obtain ⟨log, parents⟩ := deeper parents
          exact ⟨_, .failed mark held parents⟩
      | later head tail => exact after head tail
      | all head tail => exact after head tail

theorem Run.unique (h : g.Run child ids w r w' log) (h' : g.Run child ids w r' w'' log') :
    r = r' ∧ w' = w'' ∧ log = log' := by
  -- the mark of the first id and what the catalog holds for it leave one way to go on
  induction h generalizing r' w'' log' with
  | done =>
    cases h'
    exact ⟨rfl, rfl, rfl⟩
  | known mark _ ih =>
    cases h' with
    | known mark' rest =>
      cases mark.symm.trans mark'
      obtain ⟨rfl, rfl, rfl⟩ := ih rest
      exact ⟨rfl, rfl, rfl⟩
    | cycle mark' | missing mark' | failed mark' | built mark' => cases mark.symm.trans mark'
  | cycle mark =>
    cases h' with
    | cycle => exact ⟨rfl, rfl, rfl⟩
    | known mark' | missing mark' | failed mark' | built mark' => cases mark.symm.trans mark'
  | missing mark none =>
    cases h' with
    | missing => exact ⟨rfl, rfl, rfl⟩
    | known mark' | cycle mark' => cases mark.symm.trans mark'
    | failed _ held | built _ held => cases none.symm.trans held
  | failed mark held _ ih =>
    cases h' with
    | known mark' | cycle mark' => cases mark.symm.trans mark'
    | missing _ none => cases none.symm.trans held
    | failed _ held' parents =>
      cases held.symm.trans held'
      obtain ⟨⟨⟩, rfl, rfl⟩ := ih parents
      exact ⟨rfl, rfl, rfl⟩
    | built _ held' parents =>
      cases held.symm.trans held'
      cases (ih parents).1
  | built mark held _ _ ihParents ihRest =>
    cases h' with
    | known mark' | cycle mark' => cases mark.symm.trans mark'
    | missing _ none => cases none.symm.trans held
    | failed _ held' parents =>
      cases held.symm.trans held'
      cases (ihParents parents).1
    | built _ held' parents rest =>
      cases held.symm.trans held'
      obtain ⟨⟨⟩, rfl, rfl⟩ := ihParents parents
      obtain ⟨rfl, rfl, rfl⟩ := ihRest rest
      exact ⟨rfl, rfl, rfl⟩

/-- The run is the only way in which the visits can go. -/
def OnlyRun (g : Graph) (child : Option String) (ids : List String) (w : Walk)
    (r : Except ResolutionError (List Nat)) (w' : Walk) (log : List Event) : Prop :=
  g.Run child ids w r w' log ∧
    ∀ r' w'' log', g.Run child ids w r' w'' log' → r' = r ∧ w'' = w' ∧ log' = log

theorem Run.only (h : g.Run child ids w r w' log) : g.OnlyRun child ids w r w' log :=
  ⟨h, fun _ _ _ h' => h'.unique h⟩

/-! ### Bounds -/

/-- With fuel for a walk, bounded visits do what unbounded ones do. -/
theorem run_iff (enough : g.fuel ≤ fuel) : (∃ log, g.Run child ids w r w' log) ↔
    visitAll (fun id => g.visit fuel id child) ids w = some (r, w') := by
  constructor
  · rintro ⟨log, run⟩
    have bound : (g.unmarked w).length < fuel :=
      Nat.lt_of_lt_of_le (g.length_unmarked_lt_fuel w) enough
    obtain ⟨r', w'', h, _⟩ :=
      visitAll_ne_none (fun id w => g.visit_ne_none fuel id child w) ids w bound
    obtain ⟨log', run'⟩ := exists_run h
    obtain ⟨rfl, rfl, _⟩ := run.unique run'
    exact h
  · exact exists_run

theorem eq_of_map_singleton {r r' : Except ResolutionError Nat}
    (h : r.map ([·]) = r'.map ([·])) : r = r' := by
  cases r <;> cases r' <;> simp_all [Except.map]

theorem visitAll_singleton {visit : String → Walk → Option (Outcome Nat)}
    {r : Except ResolutionError Nat} (h : visit id w = some (r, w')) :
    visitAll visit [id] w = some (r.map ([·]), w') := by
  cases r <;> simp [visitAll, h, Except.map]

/-- A visit comes to an end, in one way, and with fuel for a walk the bounded visit gives its
result. -/
theorem exists_visit_run (g : Graph) (id : String) (child : Option String) (w : Walk) :
    ∃ r w' log, g.OnlyRun child [id] w (r.map ([·])) w' log ∧
      ∀ fuel, g.fuel ≤ fuel → g.visit fuel id child w = some (r, w') := by
  have ends : ∀ fuel, g.fuel ≤ fuel → ∃ r w' log, g.visit fuel id child w = some (r, w') ∧
      g.Run child [id] w (r.map ([·])) w' log := by
    intro fuel enough
    obtain ⟨r, w', h, _⟩ := g.visit_ne_none fuel id child w
      (Nat.lt_of_lt_of_le (g.length_unmarked_lt_fuel w) enough)
    have list : visitAll (fun id => g.visit fuel id child) [id] w = some (r.map ([·]), w') :=
      visitAll_singleton h
    obtain ⟨log, run⟩ := exists_run list
    exact ⟨r, w', log, h, run⟩
  obtain ⟨r, w', log, _, run⟩ := ends g.fuel (Nat.le_refl _)
  refine ⟨r, w', log, run.only, fun fuel enough => ?_⟩
  obtain ⟨r', w'', log', h, run'⟩ := ends fuel enough
  obtain ⟨same, rfl, _⟩ := run.unique run'
  rw [h, eq_of_map_singleton same]

theorem exists_walk_run (g : Graph) (ids : List String) :
    ∃ log, g.OnlyRun none ids {} (g.walk ids).1 (g.walk ids).2 log := by
  obtain ⟨log, run⟩ := exists_run (g.walk_eq ids)
  exact ⟨log, run.only⟩

end Graph

end PbxTemplates
