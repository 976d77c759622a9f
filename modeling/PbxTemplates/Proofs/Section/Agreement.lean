import PbxTemplates.Proofs.Section.Canonical

/-!
# Sections that agree outside some keys

Two sections agree outside a set of keys if they are the same once the entries with these keys are
deleted, and if both or neither of them are empty. Deletion may come before or after a section is
made canonical (`canonicalize_without`), and the rules about the keys that are left are the same
whether the deleted ones may repeat or not. So streams that agree have canonical sections that agree
under a rule that lets more keys repeat (`AgreesOutside.canonicalize`).
-/

namespace PbxTemplates

namespace Section

variable {keys : List String} {s s' t t' : Section} {k : String}

def without (keys : List String) (s : Section) : Section := s.filter fun e => e.key ∉ keys

theorem without_append : without keys (s ++ t) = without keys s ++ without keys t :=
  List.filter_append s t

theorem keys_without : (without keys s).keys = s.keys.filter (· ∉ keys) := by
  rw [Section.keys, Section.keys, List.filter_map]
  rfl

theorem values_without (h : k ∉ keys) : (without keys s).values k = s.values k := by
  rw [values, values, without, List.filter_filter, List.filter_congr fun e _ => ?_]
  by_cases same : e.key = k <;> simp [same, h]

theorem value?_without (h : k ∉ keys) : (without keys s).value? k = s.value? k := by
  rw [value?, value?, values_without h]

/-- The sections are the same but for entries of some keys, and both or none are empty. -/
structure AgreesOutside (keys : List String) (s t : Section) : Prop where
  empty_iff : s = [] ↔ t = []
  without_eq : without keys s = without keys t

namespace AgreesOutside

theorem refl (keys : List String) (s : Section) : AgreesOutside keys s s := ⟨Iff.rfl, rfl⟩

theorem append (h : AgreesOutside keys s t) (h' : AgreesOutside keys s' t') :
    AgreesOutside keys (s ++ s') (t ++ t') where
  empty_iff := by rw [List.append_eq_nil_iff, List.append_eq_nil_iff, h.empty_iff, h'.empty_iff]
  without_eq := by rw [without_append, without_append, h.without_eq, h'.without_eq]

theorem isEmpty_eq (h : AgreesOutside keys s t) : s.isEmpty = t.isEmpty := by
  rw [Bool.eq_iff_iff, List.isEmpty_iff, List.isEmpty_iff, h.empty_iff]

theorem value?_eq (h : AgreesOutside keys s t) (outside : k ∉ keys) : s.value? k = t.value? k := by
  rw [← value?_without outside, h.without_eq, value?_without outside]

end AgreesOutside

end Section

namespace Canonicalizer
open Section

variable {c c' : Canonicalizer} {keys : List String} {s t : Section}

theorem singles_without : without keys (c.singles s) = c.singles (without keys s) := by
  have kept : c.singleKeys (without keys s) = (c.singleKeys s).filter (· ∉ keys) := by
    rw [singleKeys, keys_without, List.filter_comm, eraseDups_filter, singleKeys]
  rw [singles, singles, kept, without, List.filter_map]
  refine List.map_congr_left fun k hk => ?_
  have outside : k ∉ keys := of_decide_eq_true (List.mem_filter.mp hk).2
  rw [latest, latest, value?_without outside]

theorem repeats_without : without keys (c.repeats s) = c.repeats (without keys s) := by
  rw [repeats, repeats, without, ← eraseDups_filter, List.filter_comm, without]

theorem canonicalize_without :
    without keys (c.canonicalize s) = c.canonicalize (without keys s) := by
  rw [canonicalize_eq, canonicalize_eq, without_append, singles_without, repeats_without]

/-- What a rule says of keys that a stream does not have makes no difference. -/
theorem canonicalize_congr_rule
    (h : ∀ e ∈ s, c.isRepeatable e.key = c'.isRepeatable e.key) :
    c.canonicalize s = c'.canonicalize s := by
  have drafts : s.foldl c.add {} = s.foldl c'.add {} :=
    List.foldl_ext _ _ _ fun d e he => by rw [add, add, h e he]
  rw [canonicalize, canonicalize, drafts]

theorem canonicalize_allowing_without :
    (c.allowing keys).canonicalize (without keys s) = c.canonicalize (without keys s) := by
  refine canonicalize_congr_rule fun e he => ?_
  have outside : e.key ∉ keys := of_decide_eq_true (List.mem_filter.mp he).2
  rw [Bool.eq_iff_iff, isRepeatable_allowing_iff, or_iff_left outside]

end Canonicalizer

theorem Section.AgreesOutside.canonicalize {keys : List String} {s t : Section}
    (h : AgreesOutside keys s t) (c : Canonicalizer) :
    AgreesOutside keys (c.canonicalize s) ((c.allowing keys).canonicalize t) where
  empty_iff := by
    rw [Canonicalizer.canonicalize_eq_nil_iff, Canonicalizer.canonicalize_eq_nil_iff, h.empty_iff]
  without_eq := by
    calc without keys (c.canonicalize s)
        = c.canonicalize (without keys t) := by
          rw [Canonicalizer.canonicalize_without, h.without_eq]
      _ = (c.allowing keys).canonicalize (without keys t) :=
          Canonicalizer.canonicalize_allowing_without.symm
      _ = without keys ((c.allowing keys).canonicalize t) :=
          Canonicalizer.canonicalize_without.symm

/-! ### All sections -/

def Sections.AgreesOutside (keys : List String) (s t : Sections) : Prop :=
  ∀ kind, Section.AgreesOutside keys (s.get kind) (t.get kind)

namespace Sections.AgreesOutside

variable {keys : List String} {s t : Sections} {kind : SectionKind}

theorem refl (keys : List String) (s : Sections) : AgreesOutside keys s s :=
  fun kind => .refl keys (s.get kind)

theorem set {l l' : Section} (h : AgreesOutside keys s t) (here : l.AgreesOutside keys l') :
    AgreesOutside keys (s.set kind l) (t.set kind l') := by
  intro j
  by_cases same : j = kind
  · rwa [same, get_set_self, get_set_self]
  · rw [get_set_of_ne s same, get_set_of_ne t same]
    exact h j

end Sections.AgreesOutside

end PbxTemplates
