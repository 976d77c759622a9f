import PbxTemplates.Proofs.FirstPlaces
import PbxTemplates.Proofs.SortedMap
import PbxTemplates.Section.Canonical

/-!
# What a canonical section holds

The section is made entry by entry, but it can be read off the stream as a whole: the single entries
are the different single keys with their last values, the repeated ones the different repeatable
entries (`canonicalize_eq`). Hence the canonical form of a part may stand for the part
(`canonicalize_append`), and so it may in each of several parts (`canonicalize_flatten_append`).
-/

namespace PbxTemplates

/-! ### What the section is made of -/

namespace Section

variable {s t : Section} {e : Entry} {k : String}

@[simp] theorem keys_nil : keys [] = [] := rfl

@[simp] theorem keys_cons : keys (e :: s) = e.key :: keys s := rfl

@[simp] theorem keys_append : keys (s ++ t) = keys s ++ keys t := List.map_append

theorem value?_append : value? (s ++ t) k = (value? t k).or (value? s k) := by
  rw [value?, values_append, List.getLast?_append]
  rfl

@[simp] theorem value?_nil : value? [] k = none := rfl

theorem value?_cons :
    value? (e :: s) k = (value? s k).or (if k = e.key then some e.value else none) := by
  have single : value? [e] k = if k = e.key then some e.value else none := by
    by_cases h : e.key = k
    · simp [value?, values_cons, h]
    · simp [value?, values_cons, h, Ne.symm h]
  rw [← List.singleton_append, value?_append, single]

theorem values_eq_nil_iff : values s k = [] ↔ k ∉ keys s := by
  simp [values, keys]

theorem value?_eq_none_iff : value? s k = none ↔ k ∉ keys s := by
  simp [value?, values, keys]

theorem mem_values_iff {v : String} : v ∈ values s k ↔ ⟨k, v⟩ ∈ s := by
  constructor
  · intro hv
    obtain ⟨e, he, rfl⟩ := List.mem_map.mp hv
    obtain ⟨he, hk⟩ := List.mem_filter.mp he
    exact beq_iff_eq.mp hk ▸ he
  · intro he
    exact List.mem_map.mpr ⟨⟨k, v⟩, List.mem_filter.mpr ⟨he, beq_self_eq_true k⟩, rfl⟩

/-- The entry of a key with its last value. -/
def latest (s : Section) (key : String) : Entry := ⟨key, (value? s key).getD ""⟩

end Section

namespace Canonicalizer

variable {c : Canonicalizer} {s t : Section} {e : Entry} {k : String}

theorem isRepeatable_allowing_iff {keys : List String} :
    (c.allowing keys).isRepeatable k = true ↔ c.isRepeatable k = true ∨ k ∈ keys := by
  simp [isRepeatable, allowing, SortedMap.contains, SortedMap.isSome_get?_insertMany_iff]

/-- Channel variables may repeat whatever other keys may. -/
theorem isRepeatable_setVar (keys : List String) :
    (standard.allowing keys).isRepeatable "set_var" = true :=
  isRepeatable_allowing_iff.mpr (.inl (by decide))

/-- The keys of a stream that may stand only once, each at its first place. -/
def singleKeys (c : Canonicalizer) (s : Section) : List String :=
  (s.keys.filter fun k => !c.isRepeatable k).eraseDups

/-- The single entries of a stream. -/
def singles (c : Canonicalizer) (s : Section) : Section := (c.singleKeys s).map s.latest

/-- The repeatable entries of a stream, each at its first place. -/
def repeats (c : Canonicalizer) (s : Section) : Section :=
  (s.filter fun e => c.isRepeatable e.key).eraseDups

theorem mem_singleKeys_iff :
    k ∈ c.singleKeys s ↔ k ∈ s.keys ∧ c.isRepeatable k = false := by
  simp [singleKeys]

theorem singleKeys_snoc (h : c.isRepeatable e.key = false) : c.singleKeys (s ++ [e])
    = if e.key ∈ c.singleKeys s then c.singleKeys s else c.singleKeys s ++ [e.key] := by
  have mem : e.key ∈ (s.keys.filter fun k => !c.isRepeatable k) ↔ e.key ∈ c.singleKeys s :=
    List.mem_eraseDups.symm
  simp only [singleKeys, Section.keys, List.map_append, List.filter_append] at mem ⊢
  simp [h, eraseDups_snoc]

theorem latest_snoc_self : Section.latest (s ++ [e]) e.key = e := by
  simp [Section.latest, Section.value?, Section.values_cons]

theorem latest_snoc_of_ne (h : k ≠ e.key) : Section.latest (s ++ [e]) k = Section.latest s k := by
  simp [Section.latest, Section.value?, Section.values_cons, h.symm]

/-- Putting an entry in its place changes the entry of its key and no other one. -/
theorem assign_map {keys : List String} {entry entry' : String → Entry} (nodup : keys.Nodup)
    (key : ∀ k, (entry k).key = k) (here : entry' e.key = e)
    (elsewhere : ∀ k, k ≠ e.key → entry' k = entry k) :
    assign e (keys.map entry)
      = (if e.key ∈ keys then keys else keys ++ [e.key]).map entry' := by
  induction keys with
  | nil => simp [assign, here]
  | cons k keys ih =>
    obtain ⟨hk, hkeys⟩ := List.nodup_cons.mp nodup
    rw [List.map_cons, assign, key]
    by_cases he : k = e.key
    -- here the entry is replaced, and its key does not come again
    · have rest : keys.map entry = keys.map entry' := by
        refine List.map_congr_left fun j hj => (elsewhere j ?_).symm
        rintro rfl
        exact hk (he ▸ hj)
      simp [he, here, rest]
    · have other : e.key ≠ k := Ne.symm he
      rw [if_neg he, ih hkeys]
      by_cases hmem : e.key ∈ keys <;> simp [hmem, other, elsewhere k he]

theorem singles_snoc (h : c.isRepeatable e.key = false) :
    c.singles (s ++ [e]) = assign e (c.singles s) := by
  rw [singles, singles, singleKeys_snoc h]
  exact (assign_map (nodup_eraseDups _) (fun _ => rfl) latest_snoc_self
    fun k hk => latest_snoc_of_ne hk).symm

theorem singles_snoc_of_isRepeatable (h : c.isRepeatable e.key = true) :
    c.singles (s ++ [e]) = c.singles s := by
  have keys : c.singleKeys (s ++ [e]) = c.singleKeys s := by
    simp [singleKeys, Section.keys, h]
  rw [singles, singles, keys]
  refine List.map_congr_left fun k hk => latest_snoc_of_ne ?_
  rintro rfl
  rw [(mem_singleKeys_iff.mp hk).2] at h
  cases h

theorem repeats_snoc (h : c.isRepeatable e.key = true) :
    c.repeats (s ++ [e]) = adjoin e (c.repeats s) := by
  simp [repeats, adjoin, h, eraseDups_snoc]

theorem repeats_snoc_of_not (h : c.isRepeatable e.key = false) :
    c.repeats (s ++ [e]) = c.repeats s := by
  simp [repeats, h]

theorem draft_eq : s.foldl c.add {} = ⟨c.singles s, c.repeats s⟩ := by
  -- from the end of the stream, since the entry taken in last is the one that may overrule others
  induction s using List.reverseRecOn with
  | nil => rfl
  | append_singleton s e ih =>
    rw [List.foldl_append, ih, List.foldl_cons, List.foldl_nil, add]
    cases h : c.isRepeatable e.key with
    | true => simp [singles_snoc_of_isRepeatable h, repeats_snoc h]
    | false => simp [singles_snoc h, repeats_snoc_of_not h]

theorem canonicalize_eq : c.canonicalize s = c.singles s ++ c.repeats s := by
  rw [canonicalize, draft_eq]

/-! ### Canonical parts -/

theorem keys_singles : Section.keys (c.singles s) = c.singleKeys s := by
  rw [singles, Section.keys, List.map_map]
  exact List.map_id _

theorem mem_singles_iff :
    e ∈ c.singles s ↔ c.isRepeatable e.key = false ∧ s.value? e.key = some e.value := by
  constructor
  · intro he
    obtain ⟨k, hk, rfl⟩ := List.mem_map.mp he
    obtain ⟨hk, single⟩ := mem_singleKeys_iff.mp hk
    obtain ⟨v, hv⟩ := Option.ne_none_iff_exists'.mp fun none =>
      Section.value?_eq_none_iff.mp none hk
    exact ⟨single, by simp [Section.latest, hv]⟩
  · rintro ⟨single, hv⟩
    have hk : e.key ∈ s.keys := by
      by_contra none
      simp [Section.value?_eq_none_iff.mpr none] at hv
    refine List.mem_map.mpr ⟨e.key, mem_singleKeys_iff.mpr ⟨hk, single⟩, ?_⟩
    simp [Section.latest, hv]

theorem mem_repeats_iff : e ∈ c.repeats s ↔ c.isRepeatable e.key = true ∧ e ∈ s := by
  simp [repeats, and_comm]

theorem isRepeatable_of_mem_repeats (h : e ∈ c.repeats s) : c.isRepeatable e.key = true :=
  (mem_repeats_iff.mp h).1

theorem isRepeatable_of_mem_singles (h : e ∈ c.singles s) : c.isRepeatable e.key = false :=
  (mem_singles_iff.mp h).1

theorem filter_canonicalize :
    ((c.canonicalize s).filter fun e => c.isRepeatable e.key) = c.repeats s := by
  have singles : ((c.singles s).filter fun e => c.isRepeatable e.key) = [] := by
    refine List.filter_eq_nil_iff.mpr fun e he => ?_
    simp [isRepeatable_of_mem_singles he]
  have repeats : ((c.repeats s).filter fun e => c.isRepeatable e.key) = c.repeats s :=
    List.filter_eq_self.mpr fun e he => isRepeatable_of_mem_repeats he
  rw [canonicalize_eq, List.filter_append, singles, repeats, List.nil_append]

theorem filter_keys_canonicalize :
    ((c.canonicalize s).keys.filter fun k => !c.isRepeatable k) = c.singleKeys s := by
  have singles : ((c.singles s).keys.filter fun k => !c.isRepeatable k) = c.singleKeys s := by
    rw [keys_singles]
    refine List.filter_eq_self.mpr fun k hk => ?_
    simp [(mem_singleKeys_iff.mp hk).2]
  have repeats : ((c.repeats s).keys.filter fun k => !c.isRepeatable k) = [] := by
    refine List.filter_eq_nil_iff.mpr fun k hk => ?_
    obtain ⟨e, he, rfl⟩ := List.mem_map.mp hk
    simp [isRepeatable_of_mem_repeats he]
  have append : (c.canonicalize s).keys = (c.singles s).keys ++ (c.repeats s).keys := by
    rw [canonicalize_eq, Section.keys, List.map_append]
    rfl
  rw [append, List.filter_append, singles, repeats, List.append_nil]

theorem values_singles : Section.values (c.singles s) k
    = if k ∈ c.singleKeys s then [(s.value? k).getD ""] else [] := by
  have count := (nodup_eraseDups (s.keys.filter fun k => !c.isRepeatable k)).count (a := k)
  have filtered : (c.singles s).filter (fun e => e.key == k)
      = (List.replicate ((c.singleKeys s).count k) k).map s.latest := by
    rw [singles, List.filter_map, ← List.filter_beq]
    rfl
  rw [Section.values, filtered, singleKeys, count]
  split <;> simp [Section.latest]

theorem values_repeats : Section.values (c.repeats s) k
    = if c.isRepeatable k then (s.values k).eraseDups else [] := by
  have key : ∀ e ∈ s.filter (fun e => e.key == k), e.key = k := fun e he =>
    beq_iff_eq.mp (List.mem_filter.mp he).2
  have here : Section.values (c.repeats s) k
      = ((s.filter fun e => e.key == k).filter fun _ => c.isRepeatable k).eraseDups.map
        (·.value) := by
    rw [Section.values, repeats, ← eraseDups_filter, List.filter_comm]
    rw [List.filter_congr fun e he => by rw [key e he]]
  rw [here]
  cases c.isRepeatable k with
  | true =>
    rw [List.filter_true, if_pos rfl, Section.values, eraseDups_map]
    exact fun a ha b hb same => Entry.ext ((key a ha).trans (key b hb).symm) same
  | false => simp

/-- Of the values of a key that may repeat the different ones are left, of those of any other key
the last one. -/
theorem values_canonicalize : (c.canonicalize s).values k
    = if c.isRepeatable k then (s.values k).eraseDups else (s.value? k).toList := by
  rw [canonicalize_eq, Section.values_append, values_singles, values_repeats]
  cases h : c.isRepeatable k with
  | true => simp [mem_singleKeys_iff, h]
  | false =>
    by_cases hk : k ∈ s.keys
    · have valued : s.value? k ≠ none := fun none => Section.value?_eq_none_iff.mp none hk
      obtain ⟨v, hv⟩ := Option.ne_none_iff_exists'.mp valued
      simp [mem_singleKeys_iff, h, hk, hv]
    · simp [mem_singleKeys_iff, hk, Section.value?_eq_none_iff.mpr hk]

theorem value?_canonicalize (h : c.isRepeatable k = false) :
    (c.canonicalize s).value? k = s.value? k := by
  rw [Section.value?, values_canonicalize, h]
  cases s.value? k <;> rfl

/-- The canonical section shows of a key what the stream says of that key. -/
theorem values_canonicalize_congr (h : s.values k = t.values k) :
    (c.canonicalize s).values k = (c.canonicalize t).values k := by
  rw [values_canonicalize, values_canonicalize, Section.value?, Section.value?, h]

/-- A repeatable entry is kept as it is, a single one with the last value of its key. -/
theorem mem_canonicalize_iff : e ∈ c.canonicalize s ↔
    if c.isRepeatable e.key then e ∈ s else s.value? e.key = some e.value := by
  rw [canonicalize_eq, List.mem_append, mem_singles_iff, mem_repeats_iff]
  cases c.isRepeatable e.key <;> simp

theorem mem_canonicalize_of_value? {v : String} (h : s.value? k = some v) :
    ⟨k, v⟩ ∈ c.canonicalize s := by
  rw [mem_canonicalize_iff]
  split
  · obtain ⟨e, he, rfl⟩ := List.mem_map.mp (List.mem_of_getLast? h)
    obtain ⟨he, hk⟩ := List.mem_filter.mp he
    rwa [← beq_iff_eq.mp hk]
  · exact h

theorem canonicalize_eq_nil_iff : c.canonicalize s = [] ↔ s = [] := by
  constructor
  · intro none
    refine List.eq_nil_iff_forall_not_mem.mpr fun e he => ?_
    obtain ⟨v, hv⟩ := Option.ne_none_iff_exists'.mp fun absent =>
      Section.value?_eq_none_iff.mp absent (List.mem_map_of_mem he)
    have kept := mem_canonicalize_of_value? (c := c) hv
    simp [none] at kept
  · rintro rfl
    rfl

theorem count_keys_canonicalize (single : c.isRepeatable k = false) :
    (c.canonicalize s).keys.count k = if k ∈ s.keys then 1 else 0 := by
  calc (c.canonicalize s).keys.count k
      = ((c.canonicalize s).keys.filter fun k => !c.isRepeatable k).count k :=
        (List.count_filter (by simp [single])).symm
    _ = (c.singleKeys s).count k := by rw [filter_keys_canonicalize]
    _ = if k ∈ c.singleKeys s then 1 else 0 := (nodup_eraseDups _).count
    _ = if k ∈ s.keys then 1 else 0 := by simp [mem_singleKeys_iff, single]

theorem canonicalize_congr (keys : c.singleKeys s = c.singleKeys t)
    (values : ∀ k, c.isRepeatable k = false → s.value? k = t.value? k)
    (repeats : c.repeats s = c.repeats t) : c.canonicalize s = c.canonicalize t := by
  have singles : c.singles s = c.singles t := by
    rw [singles, singles, ← keys]
    refine List.map_congr_left fun k hk => ?_
    rw [Section.latest, Section.latest, values k (mem_singleKeys_iff.mp hk).2]
  rw [canonicalize_eq, canonicalize_eq, singles, repeats]

theorem canonicalize_append :
    c.canonicalize (c.canonicalize s ++ c.canonicalize t) = c.canonicalize (s ++ t) := by
  refine canonicalize_congr ?_ (fun k hk => ?_) ?_
  · have append : ∀ s t : Section, c.singleKeys (s ++ t) = ((s.keys.filter fun k =>
        !c.isRepeatable k) ++ t.keys.filter fun k => !c.isRepeatable k).eraseDups := by
      intro s t
      simp [singleKeys, Section.keys]
    rw [append, append, filter_keys_canonicalize, filter_keys_canonicalize]
    exact eraseDups_append_eraseDups
  · rw [Section.value?_append, Section.value?_append, value?_canonicalize hk,
      value?_canonicalize hk]
  · have append : ∀ s t : Section, c.repeats (s ++ t) = ((s.filter fun e =>
        c.isRepeatable e.key) ++ t.filter fun e => c.isRepeatable e.key).eraseDups := by
      intro s t
      rw [repeats, List.filter_append]
    rw [append, append, filter_canonicalize, filter_canonicalize]
    exact eraseDups_append_eraseDups

theorem canonicalize_canonicalize : c.canonicalize (c.canonicalize s) = c.canonicalize s := by
  have h := canonicalize_append (c := c) (s := s) (t := [])
  rwa [show c.canonicalize [] = [] from rfl, List.append_nil, List.append_nil] at h

theorem canonicalize_flatten_append (parts : List Section) :
    c.canonicalize ((parts.map c.canonicalize).flatten ++ t)
      = c.canonicalize (parts.flatten ++ t) := by
  induction parts with
  | nil => rfl
  | cons s parts ih =>
    -- the rest goes to its canonical form and back, so that the induction hypothesis can change it
    rw [List.map_cons, List.flatten_cons, List.flatten_cons, List.append_assoc, List.append_assoc,
      ← canonicalize_append, ih, canonicalize_canonicalize, canonicalize_append]

end Canonicalizer

end PbxTemplates
