import PbxTemplates.Proofs.Resolution.Recursion
import PbxTemplates.Proofs.Resolution.Run

/-!
# Marks, path and built endpoints in step

Four collections change in the course of a walk, in visits that call one another. `InStep` says in
full what they have to do with one another: the ids in progress are the path from an item to where
the walk is, and each number belongs to one id, whose endpoint was made from endpoints of lower
numbers.

Main statement: `resolve_in_step`. The collections are in step whenever a visit begins or returns,
and all that is looked up on the path or among the built endpoints is there.
-/

namespace PbxTemplates
namespace Graph
open Walk (Event)

variable {g : Graph} {w w₁ w' : Walk} {id : String} {ids ps : List String} {child : Option String}
  {e : Endpoint} {bodies : List Sections} {is : List Nat} {i : Nat}
  {log : List Event} {r : Except ResolutionError (List Nat)}

/-! ### States -/

/-- The endpoint of this number is the one that the catalog holds for the id, with the owner in the
table and a body made from those of its parents, whose numbers are lower. -/
def NumberOf (g : Graph) (w : Walk) (id : String) (i : Nat) : Prop :=
  ∃ e is, g.catalog.get? id = some e ∧
    List.Forall₂ (fun p j => w.marks.get? p = some (.built j) ∧ j < i) e.parents is ∧
    w.built[i]? = some (.ofParents g.canonicalizer e (g.owners.get? id) (w.bodies is))

/-- What marks, path and built endpoints say of one another. -/
structure InStep (g : Graph) (w : Walk) : Prop where
  inProgress_iff : ∀ id, w.marks.get? id = some .inProgress ↔ id ∈ w.path
  nodup : w.path.Nodup
  /-- Each id on the path is listed as a parent by the one before. -/
  chain : w.path.IsChain g.catalog.Parent
  built : ∀ id i, w.marks.get? id = some (.built i) → g.NumberOf w id i
  unique : ∀ i < w.built.length, ∃! id, w.marks.get? id = some (.built i)

/-- Bodies of endpoints that stand before a place are those of certain lower numbers. -/
theorem Coherent.exists_numbers {before after : List BuiltEndpoint} (h : g.Coherent w)
    (split : w.built = before ++ after) (found : List.Forall₂ (HasBody before) ps bodies) :
    ∃ is, List.Forall₂ (fun p j => w.marks.get? p = some (.built j) ∧ j < before.length) ps is ∧
      w.bodies is = bodies := by
  induction found with
  | nil => exact ⟨[], .nil, rfl⟩
  | @cons p body ps bodies hp _ ih =>
    obtain ⟨is, marks, hbodies⟩ := ih
    obtain ⟨b, hb, hid, hbody⟩ := hp
    obtain ⟨j, hj⟩ := List.mem_iff_getElem?.mp hb
    have lt : j < before.length := (List.getElem?_eq_some_iff.mp hj).1
    have place : w.built[j]? = some b := by rw [split, List.getElem?_append_left lt, hj]
    refine ⟨j :: is, .cons ⟨(h.built_iff p j).mpr ⟨b, place, hid⟩, lt⟩ marks, ?_⟩
    rw [← hbodies, ← hbody]
    simp [Walk.bodies, place]

theorem Coherent.numberOf (h : g.Coherent w) (mark : w.marks.get? id = some (.built i)) :
    g.NumberOf w id i := by
  obtain ⟨b, hb, rfl⟩ := (h.built_iff id i).mp mark
  obtain ⟨before, after, bodies, split, _, held, found, made⟩ :=
    h.order.split (List.mem_of_getElem? hb)
  -- the ids of built endpoints differ, so the place of this one is where the list is split
  have same : w.built[i]? = w.built[before.length]? := by rw [hb, split]; simp
  have nodup : w.built.Nodup := List.Nodup.of_map _ h.order.nodup_ids
  have place : i = before.length :=
    (List.getElem?_inj (List.getElem?_eq_some_iff.mp hb).1 nodup).mp same
  obtain ⟨is, marks, hbodies⟩ := h.exists_numbers split found
  refine ⟨b.endpoint, is, held, place ▸ marks, ?_⟩
  rw [hb, hbodies, ← made]

theorem Coherent.inStep (h : g.Coherent w) : g.InStep w where
  inProgress_iff := h.inProgress_iff
  nodup := h.nodup
  chain := h.chain
  built _ _ mark := h.numberOf mark
  unique i hi := by
    have place : w.built[i]? = some w.built[i] := List.getElem?_eq_getElem hi
    refine ⟨w.built[i].endpoint.id, (h.built_iff _ i).mpr ⟨_, place, rfl⟩, ?_⟩
    intro id mark
    obtain ⟨b, hb, rfl⟩ := (h.built_iff id i).mp mark
    rw [place] at hb
    rw [Option.some.inj hb]

/-! ### Visits that return -/

/-- What a visit to the id that begins in the first state has done when it returns the number in the
second. -/
structure Returns (id : String) (w : Walk) (i : Nat) (w' : Walk) : Prop where
  mark : w'.marks.get? id = some (.built i)
  path : w'.path = w.path
  inProgress_iff : ∀ a, w'.marks.get? a = some .inProgress ↔ w.marks.get? a = some .inProgress
  /-- Endpoints are only added to those built. -/
  built : w.built <+: w'.built

theorem Run.progress_parents
    (parents : g.Run (some id) e.parents (w.count.enter id) (.ok is) w₁ log) (hw : g.Coherent w)
    (hc : g.Calls w id child) (mark : w.marks.get? id = none)
    (held : g.catalog.get? id = some e) :
    g.Progress e.parents (w.count.enter id) w₁ ∧ w₁.path = w.path ++ [id] ∧
      List.Forall₂ (fun p i => w₁.marks.get? p = some (.built i)) e.parents is := by
  have bounded := (run_iff (Nat.le_refl g.fuel)).mp ⟨log, parents⟩
  have visits : ∀ p ∈ e.parents,
      g.KeepsCoherent (w.path ++ [id]) p (g.visit g.fuel p (some id)) :=
    fun p hp => keepsCoherent_parent held hp
  obtain ⟨progress, returned⟩ :=
    visitAll_progress visits (hw.count.enter hc mark) rfl bounded
  exact ⟨progress, returned is rfl⟩

theorem Coherent.lt_of_mark (h : g.Coherent w) (mark : w.marks.get? id = some (.built i)) :
    i < w.built.length := by
  obtain ⟨b, hb, _⟩ := (h.built_iff id i).mp mark
  exact (List.getElem?_eq_some_iff.mp hb).1

theorem Run.progress_finish
    (parents : g.Run (some id) e.parents (w.count.enter id) (.ok is) w₁ log) (hw : g.Coherent w)
    (hc : g.Calls w id child) (mark : w.marks.get? id = none)
    (held : g.catalog.get? id = some e) :
    g.Coherent (g.finish w₁ id e is) ∧ Returns id w w₁.built.length (g.finish w₁ id e is) := by
  obtain ⟨progress, path, marks⟩ := parents.progress_parents hw hc mark held
  have finished : g.Coherent (g.finish w₁ id e is) := progress.coherent.build path held marks
  have leave := Progress.leave finished (Catalog.id_of_get?_eq_some held)
  refine ⟨finished, ?_, ?_, ?_, ?_⟩
  · simp [finish, Walk.leave]
  · simp [finish, Walk.leave, path]
  · intro a
    rw [finished.inProgress_iff, hw.inProgress_iff]
    simp [finish, Walk.leave, path]
  · exact progress.built.trans leave.built

/-! ### Runs -/

/-- What holds when an event occurs. -/
def Sound (g : Graph) : Event → Prop
  | .entry id child w => g.InStep w ∧ g.Calls w id child
  | .expand e => g.catalog.get? e.id = some e
  | .search id w => id ∈ w.path
  | .read i w => i < w.built.length
  | .exit id w i w' => g.InStep w' ∧ Returns id w i w'

theorem Run.sound (run : g.Run child ids w r w' log) (hw : g.Coherent w)
    (hc : ∀ id ∈ ids, g.Calls w id child) : ∀ event ∈ log, g.Sound event := by
  induction run with
  | done => exact List.forall_mem_nil _
  | @known child id ids w w' i r log mark _ ih =>
    obtain ⟨here, others⟩ := List.forall_mem_cons.mp hc
    have exit : Returns id w i w.count := ⟨mark, rfl, fun _ => Iff.rfl, List.prefix_refl _⟩
    have rest := ih hw.count others
    simp only [List.forall_mem_cons, Sound]
    exact ⟨⟨hw.inStep, here⟩, ⟨hw.count.inStep, exit⟩, rest⟩
  | cycle mark =>
    have onPath := (hw.inProgress_iff _).mp mark
    simp only [List.forall_mem_cons, Sound]
    exact ⟨⟨hw.inStep, hc _ List.mem_cons_self⟩, onPath, List.forall_mem_nil _⟩
  | missing _ _ =>
    simp only [List.forall_mem_cons, Sound]
    exact ⟨⟨hw.inStep, hc _ List.mem_cons_self⟩, List.forall_mem_nil _⟩
  | failed mark held _ ih =>
    have here := hc _ List.mem_cons_self
    have ancestors := ih (hw.count.enter here mark) fun p hp => .parent rfl held hp
    simp only [List.forall_mem_cons, Sound]
    exact ⟨⟨hw.inStep, here⟩, Catalog.id_of_get?_eq_some held ▸ held, ancestors⟩
  | @built child id ids w w₁ w' e is r log log' mark held parents _ ihParents ihRest =>
    obtain ⟨here, others⟩ := List.forall_mem_cons.mp hc
    have ancestors := ihParents (hw.count.enter here mark) fun p hp => .parent rfl held hp
    obtain ⟨progress, _, marks⟩ := parents.progress_parents hw here mark held
    have reads : ∀ i ∈ is, i < w₁.built.length := by
      intro i hi
      obtain ⟨p, _, hm⟩ := exists_of_forall₂ marks.flip hi
      exact progress.coherent.lt_of_mark hm
    obtain ⟨finished, exit⟩ := parents.progress_finish hw here mark held
    -- the path is back where it was, so the visits that follow are called as this one was
    have rest := ihRest finished fun a ha => ⟨exit.path ▸ (others a ha).1, (others a ha).2⟩
    simp only [List.cons_append, List.forall_mem_cons, List.forall_mem_append, List.forall_mem_map,
      Sound]
    exact ⟨⟨hw.inStep, here⟩, Catalog.id_of_get?_eq_some held ▸ held, ⟨ancestors, reads⟩,
      ⟨finished.inStep, exit⟩, rest⟩

end Graph

/-! ### Resolutions -/

section
variable {c : Canonicalizer} {catalog : Catalog} {items : List Item} {owners : OwnerTable}

/-- A resolution whose owner table can be drawn up is what comes of one run of visits to the
endpoints of its items. Whenever a visit begins or returns, marks, path and built endpoints are in
step, and what is looked up on the path or among the built endpoints is there. -/
theorem resolve_in_step (accepted : OwnerTable.ofItems catalog items = .ok owners)
    (tenants : TenantDirectory) :
    let g : Graph := ⟨c, catalog, owners⟩
    ∃ r w log, g.OnlyRun none (items.map (·.endpoint)) {} r w log ∧
      resolve c catalog items tenants = r.bind (fun _ => Resolution.ofBuilt c tenants w.built) ∧
      ∀ event ∈ log, g.Sound event := by
  intro g
  obtain ⟨log, run⟩ := g.exists_walk_run (items.map (·.endpoint))
  refine ⟨_, _, log, run, resolve_eq accepted, ?_⟩
  exact run.1.sound g.coherent_start fun _ _ => .item rfl

/-- The second item ends in a loop of templates, after the first one has built a shared template and
read its body twice. -/
theorem tangled_in_step :
    let items : List Item := [⟨"desk", .trunk {}⟩, ⟨"lobby", .trunk {}⟩]
    ∃ owners, OwnerTable.ofItems tangled items = .ok owners ∧ ∃ w log,
      Graph.Run ⟨.standard, tangled, owners⟩ none ["desk", "lobby"] {}
        (.error (.inheritanceCycle ["loop", "knot", "loop"])) w log ∧
      (∃ v, .search "loop" v ∈ log ∧ "loop" ∈ v.path) ∧
      ∃ v, .read 0 v ∈ log ∧ 0 < v.built.length := by
  intro items
  obtain ⟨owners, accepted⟩ : ∃ owners, OwnerTable.ofItems tangled items = .ok owners :=
    OwnerTable.ofItems_isOk_iff.mpr (by decide)
  obtain ⟨_, _, _, ⟨_, unique⟩, _, sound⟩ := resolve_in_step (c := .standard) accepted ∅
  obtain ⟨w, log, run, ⟨v, searched⟩, u, read⟩ : ∃ w log,
      Graph.Run ⟨.standard, tangled, owners⟩ none ["desk", "lobby"] {}
        (.error (.inheritanceCycle ["loop", "knot", "loop"])) w log ∧
      (∃ v, .search "loop" v ∈ log) ∧ ∃ v, .read 0 v ∈ log := by
    refine ⟨_, _, .built (r := .error _) ?_ rfl (.built ?_ rfl .done (.known (i := 0) ?_ .done))
      (.failed ?_ rfl (.known (r := .error _) (i := 0) ?_
        (.failed ?_ rfl (.failed ?_ rfl (.cycle ?_))))), by simp, by simp⟩
    all_goals
      simp [Walk.enter, Walk.leave, Walk.count, Graph.finish, SortedMap.get?_insert,
        EmptyCollection.emptyCollection]
  obtain ⟨rfl, rfl, rfl⟩ := unique _ _ _ run
  exact ⟨owners, accepted, _, _, run, ⟨v, searched, sound _ searched⟩, u, read, sound _ read⟩

end

end PbxTemplates
