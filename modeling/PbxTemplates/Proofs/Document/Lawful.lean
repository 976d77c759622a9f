import PbxTemplates.Document.Tagged
import PbxTemplates.Proofs.SortedMap
import PbxTemplates.Proofs.StepsInTurn

/-!
# Forms whose values can be read again

A form is lawful if what it writes can be read back, wherever as many levels of nesting are left as
the written value needs. Each way to make a form from others keeps this law: for lists and
dictionaries, for structures as tables and as lists of fields, for fields that are optional or have
a default, and for tagged structures.

The law counts levels from the inside: a form that is lawful at a depth makes a list that is lawful
one level deeper.
-/

namespace PbxTemplates

universe u

variable {α β : Type} {γ : Type u} {depth : Nat}

/-! ### Room for nesting -/

/-- At least so many levels of nesting are left. -/
def Reading.Admits (r : Reading) (depth : Nat) : Prop := ∀ m ∈ r.room, depth ≤ m

theorem Reading.admits_strict : strict.Admits depth := by
  intro m h
  cases h

theorem Reading.Admits.inner {r : Reading} (h : r.Admits (depth + 1)) : r.inner.Admits depth := by
  intro m hm
  obtain ⟨n, hn, rfl⟩ := Option.map_eq_some_iff.mp hm
  have := h n hn
  omega

namespace Node

theorem enter_of_le {room : Option Nat} (h : ∀ m ∈ room, depth + 1 ≤ m) :
    ∃ inner, enter room = some inner ∧ ∀ m ∈ inner, depth ≤ m := by
  cases room with
  | none => exact ⟨none, rfl, by simp⟩
  | some m =>
    have := h m rfl
    cases m with
    | zero => omega
    | succ m => exact ⟨some m, rfl, by simpa using this⟩

mutual

theorem readable_of_le (n : Node) (depth : Nat) (room : Option Nat)
    (hr : ∀ m ∈ room, depth ≤ m) (h : n.readable (some depth) = true) :
    n.readable room = true := by
  cases n with
  | list items =>
    cases depth with
    | zero => simp [readable, enter] at h
    | succ depth =>
      obtain ⟨inner, entered, hinner⟩ := enter_of_le hr
      simp only [readable, enter] at h
      simp only [readable, entered]
      exact readableItems_of_le items depth inner hinner h
  | table members =>
    cases depth with
    | zero => simp [readable, enter] at h
    | succ depth =>
      obtain ⟨inner, entered, hinner⟩ := enter_of_le hr
      simp only [readable, enter] at h
      simp only [readable, entered]
      exact readableMembers_of_le members depth inner hinner h
  | _ => exact h

theorem readableItems_of_le (items : List Node) (depth : Nat) (room : Option Nat)
    (hr : ∀ m ∈ room, depth ≤ m) (h : readableItems (some depth) items = true) :
    readableItems room items = true := by
  cases items with
  | nil => rfl
  | cons n items =>
    simp only [readableItems, Bool.and_eq_true] at h ⊢
    exact ⟨readable_of_le n depth room hr h.1, readableItems_of_le items depth room hr h.2⟩

theorem readableMembers_of_le (members : List (Option String × Node)) (depth : Nat)
    (room : Option Nat) (hr : ∀ m ∈ room, depth ≤ m)
    (h : readableMembers (some depth) members = true) : readableMembers room members = true := by
  cases members with
  | nil => rfl
  | cons m members =>
    obtain ⟨name, n⟩ := m
    simp only [readableMembers, Bool.and_eq_true] at h ⊢
    exact ⟨⟨h.1.1, readable_of_le n depth room hr h.1.2⟩,
      readableMembers_of_le members depth room hr h.2⟩

end

end Node

/-! ### Written lists and tables -/

namespace Json

theorem itemNodes_eq_map (items : List Json) : itemNodes items = items.map toNode := by
  induction items with
  | nil => rfl
  | cons j items ih => rw [itemNodes, ih, List.map_cons]

theorem memberNodes_eq_map (members : List (String × Json)) :
    memberNodes members = members.map fun m => (some m.1, m.2.toNode) := by
  induction members with
  | nil => rfl
  | cons m members ih => rw [memberNodes, ih, List.map_cons]

theorem readableItems_itemNodes {room : Option Nat} {items : List Json} :
    Node.readableItems room (itemNodes items) = true ↔
      ∀ j ∈ items, j.toNode.readable room = true := by
  induction items with
  | nil => simp [itemNodes, Node.readableItems]
  | cons j items ih => simp [itemNodes, Node.readableItems, ih]

theorem readableMembers_memberNodes {room : Option Nat} {members : List (String × Json)} :
    Node.readableMembers room (memberNodes members) = true ↔
      ∀ m ∈ members, m.2.toNode.readable room = true := by
  induction members with
  | nil => simp [memberNodes, Node.readableMembers]
  | cons m members ih => simp [memberNodes, Node.readableMembers, ih]

end Json

/-! ### Forms -/

namespace Form

/-- What is written can be read: it is readable where `depth` levels of nesting are left, and it
reads back there. -/
structure Lawful (depth : Nat) (f : Form α) : Prop where
  readable (a : α) : (f.write a).toNode.readable (some depth) = true
  read_write (a : α) (r : Reading) : r.Admits depth → f.read r (f.write a).toNode = .ok a

variable {f : Form α}

theorem lawful_text : text.Lawful depth where
  readable _ := rfl
  read_write _ _ _ := rfl

theorem lawful_bool : bool.Lawful depth where
  readable _ := rfl
  read_write _ _ _ := rfl

theorem lawful_natBelow {bound : Nat} (h : bound ≤ UInt64.size) :
    (natBelow bound).Lawful depth where
  readable n := by
    have small : (n.val : Int) < Int.pow 2 64 := by
      have : n.val < UInt64.size := Nat.lt_of_lt_of_le n.isLt h
      exact Int.ofNat_lt.mpr this
    have natural : -Int.pow 2 63 ≤ (n.val : Int) :=
      Int.le_trans (by decide) (Int.natCast_nonneg n.val)
    show Node.fitsWord n.val = true
    rw [Node.fitsWord, decide_eq_true natural, decide_eq_true small]
    rfl
  read_write n r _ := by simp [natBelow, Json.toNode]

theorem Lawful.convert {make : α → β} {split : β → α} (h : f.Lawful depth)
    (inverse : ∀ b, make (split b) = b) : (f.convert make split).Lawful depth where
  readable b := h.readable (split b)
  read_write b r hr := by
    have read : f.read r (f.write (split b)).toNode = .ok (split b) := h.read_write _ r hr
    simp [Form.convert, read, Except.map, inverse]

theorem lawful_word64 : word64.Lawful depth :=
  (lawful_natBelow (Nat.le_refl _)).convert fun _ => rfl

theorem lawful_word32 : word32.Lawful depth :=
  (lawful_natBelow (by decide)).convert fun _ => rfl

theorem Lawful.optional (h : f.Lawful depth) (present : ∀ a, (f.write a).toNode ≠ .null) :
    f.optional.Lawful depth where
  readable a := by
    cases a with
    | none => rfl
    | some a => exact h.readable a
  read_write a r hr := by
    cases a with
    | none => rfl
    | some a =>
      have read : f.read r (f.write a).toNode = .ok a := h.read_write a r hr
      simp only [Form.optional, Option.elim]
      split
      · rename_i absent
        exact absurd absent (present a)
      · rw [read]
        rfl

/-- The form at most looks at how much room there is, so a value may be held in memory first. -/
theorem Lawful.buffered (h : f.Lawful depth) : f.buffered.Lawful depth where
  readable := h.readable
  read_write a r hr := by
    have fits : (f.write a).toNode.readable r.room = true :=
      Node.readable_of_le _ depth _ hr (h.readable a)
    show (if (f.write a).toNode.readable r.room then f.read .strict (f.write a).toNode
      else .error .mismatch) = .ok a
    rw [if_pos fits]
    exact h.read_write a .strict Reading.admits_strict

/-- Of elements with different names, a name finds its own. -/
theorem find?_name {l : List γ} {name : γ → String} {x : γ} (nodup : (l.map name).Nodup)
    (hx : x ∈ l) : (l.find? fun y => name y == name x) = some x := by
  induction l with
  | nil => cases hx
  | cons y l ih =>
    obtain ⟨fresh, nodup⟩ := List.nodup_cons.mp nodup
    rcases List.mem_cons.mp hx with rfl | hx
    · simp
    · have other : name y ≠ name x := fun same => fresh (same ▸ List.mem_map_of_mem hx)
      simp [other, ih nodup hx]

theorem lawful_choice {all : List α} {name : α → String} {emptyTable : Bool}
    (nodup : (all.map name).Nodup) (mem : ∀ a, a ∈ all) :
    (choice all name emptyTable).Lawful depth where
  readable _ := rfl
  read_write a r _ := by simp [choice, Json.toNode, find?_name nodup (mem a)]

/-! ### Lists and dictionaries -/

theorem mapM_write {node : α → γ} {read : γ → Except DecodeError α} {l : List α}
    (h : ∀ a ∈ l, read (node a) = .ok a) : (l.map node).mapM read = .ok l :=
  mapM_eq_ok_iff.mpr (List.forall₂_map_left_iff.mpr (List.forall₂_same.mpr h))

theorem toNode_write_list (f : Form α) (l : List α) :
    ((Form.list f).write l).toNode = .list (l.map fun a => (f.write a).toNode) := by
  simp [Form.list, Json.toNode, Json.itemNodes_eq_map]

theorem Lawful.list (h : f.Lawful depth) : (Form.list f).Lawful (depth + 1) where
  readable l := by
    refine Json.readableItems_itemNodes.mpr fun j hj => ?_
    obtain ⟨a, _, rfl⟩ := List.mem_map.mp hj
    exact h.readable a
  read_write l r hr := by
    rw [toNode_write_list]
    exact mapM_write fun a _ => h.read_write a r.inner hr.inner

/-- Each permutation of the entries of a map is how some order lists them. -/
theorem MemberOrder.exists_list_eq {m : SortedMap String α} {l : List (String × α)}
    (h : l.Perm m.toList) : ∃ order : MemberOrder α, order.list m = l := by
  classical
  let list (m' : SortedMap String α) : List (String × α) := if m' = m then l else m'.toList
  have perm : ∀ m', (list m').Perm m'.toList := by
    intro m'
    by_cases same : m' = m
    · rw [show list m' = l from if_pos same, same]
      exact h
    · rw [show list m' = m'.toList from if_neg same]
  exact ⟨⟨list, perm⟩, if_pos rfl⟩

/-- The order in which the members are written is lost when they are read. -/
theorem Lawful.dictionary (h : f.Lawful depth) (order : MemberOrder α) :
    (Form.dictionary order f).Lawful (depth + 1) where
  readable m := by
    refine Json.readableMembers_memberNodes.mpr fun member hm => ?_
    obtain ⟨e, _, rfl⟩ := List.mem_map.mp hm
    exact h.readable e.2
  read_write m r hr := by
    have nodes : ((Form.dictionary order f).write m).toNode
        = .table ((order.list m).map fun e => (some e.1, (f.write e.2).toNode)) := by
      simp [Form.dictionary, Json.toNode, Json.memberNodes_eq_map]
    have entries : ((order.list m).map fun e => (some e.1, (f.write e.2).toNode)).mapM
        (f.readEntry r.inner) = .ok (order.list m) := by
      refine mapM_write fun e _ => ?_
      rw [readEntry, h.read_write e.2 r.inner hr.inner]
      rfl
    rw [nodes]
    show (((order.list m).map fun e => (some e.1, (f.write e.2).toNode)).mapM
      (f.readEntry r.inner)).map .ofList = .ok m
    rw [entries, Except.map, SortedMap.ofList_eq_of_perm (order.perm m)]

end Form

/-! ### Records -/

namespace Record

def fields (p : Record α) (a : α) : List (String × Node) :=
  (p.write a).map fun m => (m.1, m.2.toNode)

/-- What is written can be read: only fields of the record are written, and a reader that takes them
in one after the other ends with the value. -/
structure Lawful (depth : Nat) (p : Record α) : Prop where
  mem_names (a : α) : ∀ m ∈ p.write a, m.1 ∈ p.names
  readable (a : α) : ∀ m ∈ p.write a, m.2.toNode.readable (some depth) = true
  take_write (names : p.names.Nodup) (a : α) (r : Reading) : r.Admits depth →
    ∃ d, p.takeItems r p.start (p.fields a) = .ok d ∧ p.finish d = .ok a

variable {f : Form α} {p : Record α} {q : Record β} {name : String}

theorem Lawful.mem_fields (h : p.Lawful depth) (a : α) : ∀ m ∈ p.fields a, m.1 ∈ p.names := by
  intro m hm
  obtain ⟨member, hmember, rfl⟩ := List.mem_map.mp hm
  exact h.mem_names a member hmember

theorem takeOnce_write {r : Reading} {a : α} (h : f.Lawful depth) (hr : r.Admits depth) :
    takeOnce f r (f.write a).toNode none = .ok (some a) := by
  rw [takeOnce, h.read_write a r hr]
  rfl

theorem lawful_required (h : f.Lawful depth) : (required name f).Lawful depth where
  mem_names a m hm := by
    rw [List.mem_singleton.mp hm]
    exact List.mem_singleton_self _
  readable a m hm := by
    rw [List.mem_singleton.mp hm]
    exact h.readable a
  take_write _ a r hr := by
    refine ⟨some a, ?_, rfl⟩
    show (takeOnce f r (f.write a).toNode none).bind .ok = .ok (some a)
    rw [takeOnce_write h hr]
    rfl

theorem lawful_defaulted {default : α} (h : f.Lawful depth) :
    (defaulted name f default).Lawful depth where
  mem_names := (lawful_required h).mem_names
  readable := (lawful_required h).readable
  take_write names a r hr := by
    refine ⟨some a, ?_, rfl⟩
    show (takeOnce f r (f.write a).toNode none).bind .ok = .ok (some a)
    rw [takeOnce_write h hr]
    rfl

theorem lawful_optional (h : f.Lawful depth) (present : ∀ a, (f.write a).toNode ≠ .null) :
    (Record.optional name f).Lawful depth :=
  lawful_defaulted (h.optional present)

/-- A list that is not written is empty, which is also what its absence says. -/
theorem lawful_unlessEmpty {f : Form (List α)} (h : f.Lawful depth) :
    (unlessEmpty name f).Lawful depth where
  mem_names l m hm := by
    cases l with
    | nil => cases hm
    | cons a l => exact (lawful_required h).mem_names (a :: l) m hm
  readable l m hm := by
    cases l with
    | nil => cases hm
    | cons a l => exact (lawful_required h).readable (a :: l) m hm
  take_write names l r hr := by
    cases l with
    | nil => exact ⟨none, rfl, rfl⟩
    | cons a l => exact (lawful_defaulted h).take_write names (a :: l) r hr

theorem Lawful.convert {make : α → β} {split : β → α} (h : p.Lawful depth)
    (inverse : ∀ b, make (split b) = b) : (p.convert make split).Lawful depth where
  mem_names b := h.mem_names (split b)
  readable b := h.readable (split b)
  take_write names b r hr := by
    obtain ⟨d, taken, finished⟩ := h.take_write names (split b) r hr
    refine ⟨d, taken, ?_⟩
    show (p.finish d).map make = .ok b
    rw [finished, Except.map, inverse]

theorem takeItems_cons (p : Record α) (r : Reading) (d : p.Draft) (m : String × Node)
    (l : List (String × Node)) :
    p.takeItems r d (m :: l) = (p.take r m.1 m.2 d).bind fun d => p.takeItems r d l := by
  rw [takeItems, List.foldlM_cons]
  rfl

theorem takeItems_append (p : Record α) (r : Reading) (d : p.Draft) (l l' : List (String × Node)) :
    p.takeItems r d (l ++ l') = (p.takeItems r d l).bind fun d => p.takeItems r d l' := by
  rw [takeItems, List.foldlM_append]
  rfl

def both (d : p.Draft) (e : q.Draft) : (p.and q).Draft := (d, e)

theorem takeItems_both_left {r : Reading} {l : List (String × Node)} (d : p.Draft) (e : q.Draft)
    (own : ∀ m ∈ l, m.1 ∈ p.names) :
    (p.and q).takeItems r (both d e) l = (p.takeItems r d l).map (both · e) := by
  induction l generalizing d with
  | nil => rfl
  | cons m l ih =>
    have here : (p.and q).take r m.1 m.2 (both d e) = (p.take r m.1 m.2 d).map (both · e) :=
      if_pos (own m List.mem_cons_self)
    rw [takeItems_cons, takeItems_cons, here]
    cases p.take r m.1 m.2 d with
    | error err => rfl
    | ok d => exact ih d fun m hm => own m (List.mem_cons_of_mem _ hm)

theorem takeItems_both_right {r : Reading} {l : List (String × Node)} (d : p.Draft) (e : q.Draft)
    (other : ∀ m ∈ l, m.1 ∉ p.names) :
    (p.and q).takeItems r (both d e) l = (q.takeItems r e l).map (both d) := by
  induction l generalizing e with
  | nil => rfl
  | cons m l ih =>
    have here : (p.and q).take r m.1 m.2 (both d e) = (q.take r m.1 m.2 e).map (both d) :=
      if_neg (other m List.mem_cons_self)
    rw [takeItems_cons, takeItems_cons, here]
    cases q.take r m.1 m.2 e with
    | error err => rfl
    | ok e => exact ih e fun m hm => other m (List.mem_cons_of_mem _ hm)

theorem finish_both (d : p.Draft) (e : q.Draft) :
    (p.and q).finish (both d e) = (p.finish d).bind fun a => (q.finish e).map (a, ·) := by
  simp only [Record.and, both]
  cases p.finish d <;> rfl

theorem Lawful.and (hp : p.Lawful depth) (hq : q.Lawful depth) : (p.and q).Lawful depth where
  mem_names ab m hm := by
    refine List.mem_append.mpr ((List.mem_append.mp hm).imp ?_ ?_)
    · exact hp.mem_names ab.1 m
    · exact hq.mem_names ab.2 m
  readable ab m hm := by
    rcases List.mem_append.mp hm with hm | hm
    · exact hp.readable ab.1 m hm
    · exact hq.readable ab.2 m hm
  take_write names ab r hr := by
    obtain ⟨a, b⟩ := ab
    obtain ⟨namesP, namesQ, apart⟩ := List.nodup_append.mp names
    obtain ⟨d, takenP, finishedP⟩ := hp.take_write namesP a r hr
    obtain ⟨e, takenQ, finishedQ⟩ := hq.take_write namesQ b r hr
    have other : ∀ m ∈ q.fields b, m.1 ∉ p.names := fun m hm hmem =>
      apart m.1 hmem m.1 (hq.mem_fields b m hm) rfl
    -- the fields of one record leave what has been read of the other as it is
    have left : (p.and q).takeItems r (p.and q).start (p.fields a) = .ok (both d q.start) :=
      (takeItems_both_left p.start q.start (hp.mem_fields a)).trans (congrArg _ takenP)
    have right : (p.and q).takeItems r (both d q.start) (q.fields b) = .ok (both d e) :=
      (takeItems_both_right d q.start other).trans (congrArg _ takenQ)
    have fields : (p.and q).fields (a, b) = p.fields a ++ q.fields b := List.map_append
    refine ⟨both d e, ?_, ?_⟩
    · rw [fields, takeItems_append, left]
      exact right
    · rw [finish_both, finishedP, finishedQ]
      rfl

/-! ### Structures -/

/-- The fields of a table are taken in like those of a list, if all its members are fields. -/
theorem foldlM_takeMember {pass : Node → Bool} {r : Reading} {l : List (String × Node)}
    (d : p.Draft) (own : ∀ m ∈ l, m.1 ∈ p.names) :
    (l.map fun m => (some m.1, m.2)).foldlM (p.takeMember pass r) d = p.takeItems r d l := by
  induction l generalizing d with
  | nil => rfl
  | cons m l ih =>
    have here : p.takeMember pass r d (some m.1, m.2) = p.take r m.1 m.2 d :=
      if_pos (own m List.mem_cons_self)
    rw [List.map_cons, List.foldlM_cons, takeItems_cons, here]
    cases p.take r m.1 m.2 d with
    | error err => rfl
    | ok d => exact ih d fun m hm => own m (List.mem_cons_of_mem _ hm)

theorem Lawful.readMembers {pass : Node → Bool} {r : Reading} (h : p.Lawful depth)
    (names : p.names.Nodup) (hr : r.Admits depth) (a : α) :
    p.readMembers pass r ((p.fields a).map fun m => (some m.1, m.2)) = .ok a := by
  obtain ⟨d, taken, finished⟩ := h.take_write names a r hr
  rw [Record.readMembers, foldlM_takeMember p.start (h.mem_fields a), taken]
  exact finished

/-- Members that are no fields make no difference, if they are accepted at all. -/
theorem readMembers_append {pass : Node → Bool} {r : Reading}
    {members others : List (Option String × Node)}
    (skipped : ∀ m ∈ others, ∃ name, m.1 = some name ∧ name ∉ p.names ∧ pass m.2 = true) :
    p.readMembers pass r (members ++ others) = p.readMembers pass r members := by
  have skip : ∀ d, others.foldlM (p.takeMember pass r) d = .ok d := by
    intro d
    induction others with
    | nil => rfl
    | cons m others ih =>
      obtain ⟨found, n⟩ := m
      obtain ⟨name, rfl, other, passed⟩ := skipped (found, n) List.mem_cons_self
      have here : p.takeMember pass r d (some name, n) = .ok d := by
        rw [takeMember, if_neg other, if_pos passed]
      rw [List.foldlM_cons, here]
      exact ih fun m hm => skipped m (List.mem_cons_of_mem _ hm)
  have same : (members ++ others).foldlM (p.takeMember pass r) p.start
      = members.foldlM (p.takeMember pass r) p.start := by
    rw [List.foldlM_append]
    cases members.foldlM (p.takeMember pass r) p.start with
    | error err => rfl
    | ok d => exact skip d
  rw [Record.readMembers, Record.readMembers, same]

theorem toNode_write_obj (p : Record α) (a : α) :
    (Json.obj (p.write a)).toNode = .table ((p.fields a).map fun m => (some m.1, m.2)) := by
  simp [Json.toNode, Json.memberNodes_eq_map, fields]

theorem Lawful.form (h : p.Lawful depth) (names : p.names.Nodup) :
    p.form.Lawful (depth + 1) where
  readable a := Json.readableMembers_memberNodes.mpr (h.readable a)
  read_write a r hr := by
    have node : (p.form.write a).toNode = .table ((p.fields a).map fun m => (some m.1, m.2)) :=
      p.toNode_write_obj a
    rw [node]
    exact h.readMembers names hr.inner a

theorem Lawful.tableForm (h : p.Lawful depth) (names : p.names.Nodup) :
    p.tableForm.Lawful (depth + 1) where
  readable a := Json.readableMembers_memberNodes.mpr (h.readable a)
  read_write a r hr := by
    have node : (p.tableForm.write a).toNode = .table ((p.fields a).map fun m => (some m.1, m.2)) :=
      p.toNode_write_obj a
    rw [node]
    exact h.readMembers names hr.inner a

/-- A list of fields has no names, so all of them have to be written in their order. -/
theorem Lawful.listForm (h : p.Lawful depth) (names : p.names.Nodup)
    (all : ∀ a, (p.write a).map (·.1) = p.names) : p.listForm.Lawful (depth + 1) where
  readable a := by
    refine Json.readableItems_itemNodes.mpr fun j hj => ?_
    obtain ⟨m, hm, rfl⟩ := List.mem_map.mp hj
    exact h.readable a m hm
  read_write a r hr := by
    have node : (p.listForm.write a).toNode = .list ((p.fields a).map (·.2)) := by
      simp [Record.listForm, Json.toNode, Json.itemNodes_eq_map, fields]
    have zip : p.names.zip ((p.fields a).map (·.2)) = p.fields a := by
      have same : (p.fields a).map (·.1) = p.names := by
        rw [← all a, fields, List.map_map]
        rfl
      rw [← same]
      exact (List.zip_of_prod rfl rfl).symm
    have length : ((p.fields a).map (·.2)).length ≤ p.names.length := by
      rw [← all a]
      simp [fields]
    obtain ⟨d, taken, finished⟩ := h.take_write names a r.inner hr.inner
    rw [node]
    show p.readItems r.inner _ = _
    rw [Record.readItems, zip, taken]
    simp only [Except.bind, finished, length, decide_true, Bool.true_or, if_true]

end Record

/-! ### Tagged structures -/

namespace Case

/-- What is written for a structure can be read as its fields, none of which has the name of the
tag. -/
structure Lawful (depth : Nat) (c : Case α) : Prop where
  record : c.record.Lawful depth
  names : (tagName :: c.record.names).Nodup
  make_fields (a : α) (fields : c.Fields) : c.fields? a = some fields → c.make fields = a

variable {cases : List (Case α)} {c : Case α} {a : α}

/-- A value is written by one of the cases that know its structure. -/
theorem exists_write (all : ∀ a, ∃ c ∈ cases, (c.fields? a).isSome) (a : α) :
    ∃ c ∈ cases, ∃ fields, c.fields? a = some fields ∧
      (cases.findSome? fun c => c.write? a)
        = some ((tagName, .str c.tag) :: c.record.write fields) := by
  cases found : cases.findSome? fun c => c.write? a with
  | none =>
    obtain ⟨c, hc, known⟩ := all a
    have unwritten : c.write? a = none := List.findSome?_eq_none_iff.mp found c hc
    rw [write?, Option.map_eq_none_iff] at unwritten
    rw [unwritten] at known
    cases known
  | some members =>
    obtain ⟨c, hc, written⟩ := List.exists_of_findSome?_eq_some found
    obtain ⟨fields, hfields, rfl⟩ := Option.map_eq_some_iff.mp written
    exact ⟨c, hc, fields, hfields, rfl⟩

theorem readTable_write {fields : c.Fields} (h : c.Lawful depth)
    (tags : (cases.map (·.tag)).Nodup) (hc : c ∈ cases) :
    readTable cases ((some tagName, .text c.tag) ::
      (c.record.fields fields).map fun m => (some m.1, m.2)) = .ok (c.make fields) := by
  obtain ⟨untagged, names⟩ := List.nodup_cons.mp h.names
  -- no field has the name of the tag, so the tag is found alone and all fields are left
  have others : ∀ m ∈ (c.record.fields fields).map fun m => (some m.1, m.2),
      m.1 ≠ some tagName := by
    intro m hm same
    obtain ⟨field, hfield, rfl⟩ := List.mem_map.mp hm
    exact untagged (Option.some.inj same ▸ h.record.mem_fields fields field hfield)
  have tag : (((some tagName, Node.text c.tag) ::
      (c.record.fields fields).map fun m => (some m.1, m.2)).filter fun m => m.1 == some tagName)
        = [(some tagName, .text c.tag)] := by
    rw [List.filter_cons_of_pos (by simp), List.filter_eq_nil_iff.mpr]
    intro m hm
    simpa using others m hm
  have rest : (((some tagName, Node.text c.tag) ::
      (c.record.fields fields).map fun m => (some m.1, m.2)).filter fun m => m.1 != some tagName)
        = (c.record.fields fields).map fun m => (some m.1, m.2) := by
    rw [List.filter_cons_of_neg (by simp), List.filter_eq_self.mpr]
    intro m hm
    simpa using others m hm
  rw [readTable, tag, rest]
  simp only [named, Form.find?_name tags hc,
    h.record.readMembers names Reading.admits_strict fields]
  rfl

/-- Values that are each of one of the given structures can be read again, if the tags tell the
structures apart. -/
theorem lawful_form (lawful : ∀ c ∈ cases, c.Lawful depth) (tags : (cases.map (·.tag)).Nodup)
    (all : ∀ a, ∃ c ∈ cases, (c.fields? a).isSome) : (Case.form cases).Lawful (depth + 1) := by
  have write : ∀ a, ∃ c ∈ cases, ∃ fields, c.fields? a = some fields ∧
      (Case.form cases).write a = .obj ((tagName, .str c.tag) :: c.record.write fields) := by
    intro a
    obtain ⟨c, hc, fields, hfields, written⟩ := exists_write all a
    refine ⟨c, hc, fields, hfields, ?_⟩
    show Json.obj ((cases.findSome? fun c => c.write? a).getD []) = _
    rw [written]
    rfl
  have readable : ∀ a, ((Case.form cases).write a).toNode.readable (some (depth + 1)) = true := by
    intro a
    obtain ⟨c, hc, fields, _, written⟩ := write a
    rw [written]
    refine Json.readableMembers_memberNodes.mpr fun m hm => ?_
    rcases List.mem_cons.mp hm with rfl | hm
    · rfl
    · exact (lawful c hc).record.readable fields m hm
  refine ⟨readable, fun a r hr => ?_⟩
  obtain ⟨c, hc, fields, hfields, written⟩ := write a
  have node : ((Case.form cases).write a).toNode = .table ((some tagName, .text c.tag) ::
      (c.record.fields fields).map fun m => (some m.1, m.2)) := by
    simp [written, Json.toNode, Json.memberNodes_eq_map, Record.fields]
  -- the table is read in full before its tag is looked for, so all of it has to fit
  have fits := Node.readable_of_le _ _ _ hr (readable a)
  rw [node] at fits
  rw [node]
  show (if Node.readable r.room _ then readTable cases _ else .error .mismatch) = .ok a
  rw [if_pos fits, readTable_write (lawful c hc) tags hc,
    (lawful c hc).make_fields a fields hfields]

end Case

end PbxTemplates
