import PbxTemplates.Proofs.Section.Canonical

/-!
# Canonical sections as normal forms

What the canonical section of a stream is can be told from the stream alone: which entries it has and
in which order they stand. Exactly one section answers this description, the canonical one
(`canonicalize_described`). The sections that are their own canonical form are those with single
entries of different keys before different repeatable entries, and canonical forms may be taken of
the parts of a stream before they are taken of the whole (`canonicalize_normal_form`).
-/

namespace PbxTemplates

/-! ### Last entries -/

namespace Section

variable {s : Section} {e : Entry}

/-- No entry of the same key comes after this one. -/
def IsLast (s : Section) (e : Entry) : Prop :=
  ∃ before after, s = before ++ e :: after ∧ e.key ∉ keys after

theorem isLast_iff : s.IsLast e ↔ s.value? e.key = some e.value := by
  constructor
  · rintro ⟨before, after, rfl, none⟩
    have later : value? after e.key = .none := value?_eq_none_iff.mpr none
    rw [← List.singleton_append, value?_append, value?_append, later]
    simp [value?, values_cons]
  · intro hv
    -- from the end, where the last entry of the key comes first
    induction s using List.reverseRecOn with
    | nil => cases hv
    | append_singleton s x ih =>
      by_cases hk : x.key = e.key
      · have value : x.value = e.value := by simpa [value?, values_cons, hk] using hv
        obtain rfl : x = e := Entry.ext hk value
        exact ⟨s, [], rfl, by simp⟩
      · have earlier : value? s e.key = some e.value := by
          simpa [value?, values_cons, hk] using hv
        obtain ⟨before, after, rfl, none⟩ := ih earlier
        have other : e.key ≠ x.key := Ne.symm hk
        exact ⟨before, after ++ [x], by simp, by simp [none, other]⟩

end Section

/-! ### The description -/

namespace Canonicalizer

variable {c : Canonicalizer} {stream singles repeats : Section}

/-- What the parts of a canonical section hold, and in which order. Strict orders leave no room for
a key of the first part or an entry of the second one to stand twice. -/
structure DescribesParts (c : Canonicalizer) (stream singles repeats : Section) : Prop where
  mem_singles (e : Entry) : e ∈ singles ↔ c.isRepeatable e.key = false ∧ stream.IsLast e
  singles_in_order :
    singles.Pairwise fun a b => stream.keys.idxOf a.key < stream.keys.idxOf b.key
  mem_repeats (e : Entry) : e ∈ repeats ↔ c.isRepeatable e.key = true ∧ e ∈ stream
  repeats_in_order : repeats.Pairwise fun a b => stream.idxOf a < stream.idxOf b

/-- The section has first, for each single key of the stream in the order in which the keys come
first, the last entry of the key, and then the different repeatable entries of the stream in the
order in which they come first. -/
def Describes (c : Canonicalizer) (stream result : Section) : Prop :=
  ∃ singles repeats, result = singles ++ repeats ∧ c.DescribesParts stream singles repeats

theorem describesParts_self : c.DescribesParts stream (c.singles stream) (c.repeats stream) where
  mem_singles e := by rw [mem_singles_iff, Section.isLast_iff]
  singles_in_order := by
    refine List.pairwise_map.mpr ?_
    rw [singleKeys, eraseDups_filter]
    exact pairwise_idxOf_eraseDups.filter _
  mem_repeats e := mem_repeats_iff
  repeats_in_order := by
    rw [Canonicalizer.repeats, eraseDups_filter]
    exact pairwise_idxOf_eraseDups.filter _

theorem DescribesParts.eq (h : c.DescribesParts stream singles repeats) :
    singles = c.singles stream ∧ repeats = c.repeats stream := by
  have own : c.DescribesParts stream (c.singles stream) (c.repeats stream) := describesParts_self
  constructor
  · refine eq_of_pairwise_place h.singles_in_order own.singles_in_order fun e => ?_
    rw [h.mem_singles, own.mem_singles]
  · refine eq_of_pairwise_place h.repeats_in_order own.repeats_in_order fun e => ?_
    rw [h.mem_repeats, own.mem_repeats]

theorem describes_iff {result : Section} :
    c.Describes stream result ↔ result = c.canonicalize stream := by
  rw [canonicalize_eq]
  constructor
  · rintro ⟨singles, repeats, rfl, h⟩
    rw [h.eq.1, h.eq.2]
  · rintro rfl
    exact ⟨_, _, rfl, describesParts_self⟩

theorem mem_keys_canonicalize_iff {k : String} :
    k ∈ (c.canonicalize stream).keys ↔ k ∈ stream.keys := by
  constructor
  · intro hk
    obtain ⟨e, he, rfl⟩ := List.mem_map.mp hk
    rw [mem_canonicalize_iff] at he
    split at he
    · exact List.mem_map_of_mem he
    · by_contra none
      simp [Section.value?_eq_none_iff.mpr none] at he
  · intro hk
    obtain ⟨v, hv⟩ := Option.ne_none_iff_exists'.mp fun none =>
      Section.value?_eq_none_iff.mp none hk
    exact List.mem_map_of_mem (mem_canonicalize_of_value? hv)

theorem count_canonicalize {e : Entry} (repeatable : c.isRepeatable e.key = true) :
    (c.canonicalize stream).count e = if e ∈ stream then 1 else 0 := by
  have single : e ∉ c.singles stream := fun he => by
    simp [isRepeatable_of_mem_singles he] at repeatable
  have nodup : (c.repeats stream).Nodup := nodup_eraseDups _
  rw [canonicalize_eq, List.count_append, List.count_eq_zero_of_not_mem single, nodup.count]
  simp [mem_repeats_iff, repeatable]

/-- A section answers the description of a stream exactly if it is the canonical one. So the
canonical section has the keys of the stream, each key that may not repeat once and each repeatable
entry once, and it is empty only if the stream is. -/
theorem canonicalize_described (c : Canonicalizer) (stream : Section) :
    (∀ result, c.Describes stream result ↔ result = c.canonicalize stream) ∧
    (∀ k, k ∈ (c.canonicalize stream).keys ↔ k ∈ stream.keys) ∧
    (∀ k, c.isRepeatable k = false →
      (c.canonicalize stream).keys.count k = if k ∈ stream.keys then 1 else 0) ∧
    (∀ e : Entry, c.isRepeatable e.key = true →
      (c.canonicalize stream).count e = if e ∈ stream then 1 else 0) ∧
    (c.canonicalize stream = [] ↔ stream = []) :=
  ⟨fun _ => describes_iff, fun _ => mem_keys_canonicalize_iff, fun _ => count_keys_canonicalize,
    fun _ => count_canonicalize, canonicalize_eq_nil_iff⟩

/-! ### Normal forms -/

/-- Single entries of different keys, then different repeatable entries. -/
structure NormalParts (c : Canonicalizer) (singles repeats : Section) : Prop where
  single : ∀ e ∈ singles, c.isRepeatable e.key = false
  nodup_keys : singles.keys.Nodup
  repeatable : ∀ e ∈ repeats, c.isRepeatable e.key = true
  nodup : repeats.Nodup

/-- The section consists of the two parts. -/
def IsNormal (c : Canonicalizer) (s : Section) : Prop :=
  ∃ singles repeats, s = singles ++ repeats ∧ c.NormalParts singles repeats

theorem isNormal_canonicalize : c.IsNormal (c.canonicalize stream) := by
  refine ⟨c.singles stream, c.repeats stream, canonicalize_eq, ?_, ?_, ?_, ?_⟩
  · exact fun e he => isRepeatable_of_mem_singles he
  · rw [keys_singles]
    exact nodup_eraseDups _
  · exact fun e he => isRepeatable_of_mem_repeats he
  · exact nodup_eraseDups _

theorem NormalParts.isLast (h : c.NormalParts singles repeats) {e : Entry} (he : e ∈ singles) :
    (singles ++ repeats).IsLast e := by
  obtain ⟨before, after, rfl⟩ := List.append_of_mem he
  refine ⟨before, after ++ repeats, by simp, ?_⟩
  rw [Section.keys_append, List.mem_append, not_or]
  constructor
  · have nodup := h.nodup_keys
    rw [Section.keys_append, Section.keys_cons] at nodup
    exact (List.nodup_cons.mp (List.nodup_append.mp nodup).2.1).1
  · intro hk
    obtain ⟨r, hr, same⟩ := List.mem_map.mp hk
    have single := h.single e he
    rw [← same, h.repeatable r hr] at single
    cases single

theorem NormalParts.singles_append (h : c.NormalParts singles repeats) :
    c.singles (singles ++ repeats) = singles := by
  have own : singles.keys.filter (fun k => !c.isRepeatable k) = singles.keys := by
    refine List.filter_eq_self.mpr fun k hk => ?_
    obtain ⟨e, he, rfl⟩ := List.mem_map.mp hk
    simp [h.single e he]
  have other : repeats.keys.filter (fun k => !c.isRepeatable k) = [] := by
    refine List.filter_eq_nil_iff.mpr fun k hk => ?_
    obtain ⟨e, he, rfl⟩ := List.mem_map.mp hk
    simp [h.repeatable e he]
  have keys : c.singleKeys (singles ++ repeats) = singles.keys := by
    rw [singleKeys, Section.keys_append, List.filter_append, own, other, List.append_nil,
      eraseDups_of_nodup h.nodup_keys]
  have latest : ∀ e ∈ singles, (singles ++ repeats).latest e.key = e := by
    intro e he
    rw [Section.latest, Section.isLast_iff.mp (h.isLast he)]
    rfl
  calc c.singles (singles ++ repeats)
      = (c.singleKeys (singles ++ repeats)).map (singles ++ repeats).latest := rfl
    _ = singles.map fun e => (singles ++ repeats).latest e.key := by
        rw [keys, Section.keys, List.map_map]
        rfl
    _ = singles.map id := List.map_congr_left latest
    _ = singles := List.map_id singles

theorem NormalParts.repeats_append (h : c.NormalParts singles repeats) :
    c.repeats (singles ++ repeats) = repeats := by
  have other : singles.filter (fun e => c.isRepeatable e.key) = [] :=
    List.filter_eq_nil_iff.mpr fun e he => by simp [h.single e he]
  have own : repeats.filter (fun e => c.isRepeatable e.key) = repeats :=
    List.filter_eq_self.mpr h.repeatable
  rw [Canonicalizer.repeats, List.filter_append, other, own, List.nil_append,
    eraseDups_of_nodup h.nodup]

theorem canonicalize_eq_self_iff : c.canonicalize stream = stream ↔ c.IsNormal stream := by
  constructor
  · intro same
    exact same ▸ isNormal_canonicalize
  · rintro ⟨singles, repeats, rfl, h⟩
    rw [canonicalize_eq, h.singles_append, h.repeats_append]

/-- Canonical forms may be taken of one part of a stream or of both before they are taken of the
whole, also twice, and exactly the normal sections are their own canonical forms. -/
theorem canonicalize_normal_form (c : Canonicalizer) (s t : Section) :
    c.canonicalize (c.canonicalize s ++ c.canonicalize t) = c.canonicalize (s ++ t) ∧
    c.canonicalize (c.canonicalize s ++ t) = c.canonicalize (s ++ t) ∧
    c.canonicalize (s ++ c.canonicalize t) = c.canonicalize (s ++ t) ∧
    c.canonicalize (c.canonicalize s) = c.canonicalize s ∧
    (c.canonicalize s = s ↔ c.IsNormal s) := by
  have both : ∀ s t : Section, c.canonicalize (c.canonicalize s ++ c.canonicalize t)
      = c.canonicalize (s ++ t) := fun _ _ => canonicalize_append
  refine ⟨both s t, ?_, ?_, canonicalize_canonicalize, canonicalize_eq_self_iff⟩
  · rw [← both, canonicalize_canonicalize, both]
  · rw [← both, canonicalize_canonicalize, both]

end Canonicalizer

end PbxTemplates
