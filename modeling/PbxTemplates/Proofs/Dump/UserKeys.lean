import PbxTemplates.Dump
import PbxTemplates.Proofs.FirstPlaces
import PbxTemplates.Proofs.FunctionKey.Layering

/-!
# The keys of a user

A user has a public and a private template of function keys, either of which may be absent. Nothing
keeps a dump from giving one number to several users or templates, or from referring to a number
that no template has: the first one with a number counts, and a public reference is followed before
a private one (`userKeys_answer`).
-/

namespace PbxTemplates

namespace Dump

def Unknown (d : Dump) (a : UInt64) : Prop := ∀ t ∈ d.keyTemplates, t.id ≠ some a

/-- What a reference stands for: the first template with its number. An absent one stands for a
template without keys. -/
def Refers (d : Dump) : Option UInt64 → KeyTemplate → Prop
  | none, t => t = {}
  | some a, t => IsFirst (fun t => t.id = some a) d.keyTemplates t

/-- What the dump says about a user: the first entry with the id. -/
def UserEntry (d : Dump) (userId : UInt64) (u : KeyUser) : Prop :=
  IsFirst (fun u => u.userId = userId) d.keyUsers u

inductive UserKeys (d : Dump) (userId : UInt64) :
    Except ResolutionError (Option KeyTemplate) → Prop
  | unlisted (absent : ∀ u ∈ d.keyUsers, u.userId ≠ userId) : UserKeys d userId (.ok none)
  /-- Whatever the private reference says. -/
  | publicUnknown {u : KeyUser} {a : UInt64} (entry : d.UserEntry userId u)
      (refers : u.publicTemplate = some a) (unknown : d.Unknown a) :
      UserKeys d userId (.error (.unknownKeyTemplate a))
  | privateUnknown {u : KeyUser} {a : UInt64} {shared : KeyTemplate}
      (entry : d.UserEntry userId u) (below : d.Refers u.publicTemplate shared)
      (refers : u.privateTemplate = some a) (unknown : d.Unknown a) :
      UserKeys d userId (.error (.unknownKeyTemplate a))
  /-- A nameless template, in which private keys hide public ones. -/
  | layered {u : KeyUser} {shared own t : KeyTemplate} (entry : d.UserEntry userId u)
      (below : d.Refers u.publicTemplate shared) (above : d.Refers u.privateTemplate own)
      (id : t.id = none) (name : t.name = none) (isPrivate : t.isPrivate = false)
      (keys : ∀ position, t.get? position = (own.get? position).or (shared.get? position)) :
      UserKeys d userId (.ok (some t))

variable {d : Dump} {userId a : UInt64} {u : KeyUser} {t : KeyTemplate}
  {ref : Option UInt64} {answer : Except ResolutionError (Option KeyTemplate)}

/-! ### References to templates -/

theorem find?_keyTemplates_eq_some_iff :
    d.keyTemplates.find? (fun t => t.id == some a) = some t ↔ d.Refers (some a) t :=
  find?_eq_some_iff_isFirst fun _ => beq_iff_eq

theorem find?_keyTemplates_eq_none_iff :
    d.keyTemplates.find? (fun t => t.id == some a) = none ↔ d.Unknown a :=
  find?_eq_none_iff_forall fun _ => beq_iff_eq

theorem keyTemplate_of_refers (h : d.Refers (some a) t) : d.keyTemplate a = .ok t := by
  rw [keyTemplate, find?_keyTemplates_eq_some_iff.mpr h]

theorem keyTemplate_of_unknown (h : d.Unknown a) :
    d.keyTemplate a = .error (.unknownKeyTemplate a) := by
  rw [keyTemplate, find?_keyTemplates_eq_none_iff.mpr h]

theorem referredTemplate_of_refers (h : d.Refers ref t) :
    ∃ found, d.referredTemplate ref = .ok found ∧ found.getD {} = t := by
  cases ref with
  | none => exact ⟨none, rfl, h.symm⟩
  | some a =>
    refine ⟨some t, ?_, rfl⟩
    rw [referredTemplate, keyTemplate_of_refers h]
    rfl

theorem referredTemplate_of_unknown (h : d.Unknown a) :
    d.referredTemplate (some a) = .error (.unknownKeyTemplate a) := by
  rw [referredTemplate, keyTemplate_of_unknown h]
  rfl

theorem unknown_or_refers (d : Dump) (ref : Option UInt64) :
    (∃ a, ref = some a ∧ d.Unknown a) ∨ ∃ t, d.Refers ref t := by
  cases ref with
  | none => exact .inr ⟨{}, rfl⟩
  | some a =>
    cases found : d.keyTemplates.find? fun t => t.id == some a with
    | none => exact .inl ⟨a, rfl, find?_keyTemplates_eq_none_iff.mp found⟩
    | some t => exact .inr ⟨t, find?_keyTemplates_eq_some_iff.mp found⟩

/-! ### The answer -/

theorem find?_keyUsers_eq_some_iff :
    d.keyUsers.find? (fun u => u.userId == userId) = some u ↔ d.UserEntry userId u :=
  find?_eq_some_iff_isFirst fun _ => beq_iff_eq

theorem find?_keyUsers_eq_none_iff :
    d.keyUsers.find? (fun u => u.userId == userId) = none
      ↔ ∀ u ∈ d.keyUsers, u.userId ≠ userId :=
  find?_eq_none_iff_forall fun _ => beq_iff_eq

theorem userKeys_of_absent (absent : ∀ u ∈ d.keyUsers, u.userId ≠ userId) :
    d.userKeys userId = .ok none := by
  rw [userKeys, find?_keyUsers_eq_none_iff.mpr absent]

theorem userKeys_of_entry (entry : d.UserEntry userId u) :
    d.userKeys userId = do
      let shared ← d.referredTemplate u.publicTemplate
      let own ← d.referredTemplate u.privateTemplate
      return some (.ofUser shared own) := by
  rw [userKeys, find?_keyUsers_eq_some_iff.mpr entry]

theorem UserKeys.userKeys_eq (h : d.UserKeys userId answer) : d.userKeys userId = answer := by
  cases h with
  | unlisted absent => exact userKeys_of_absent absent
  | publicUnknown entry refers unknown =>
    rw [userKeys_of_entry entry, refers, referredTemplate_of_unknown unknown]
    rfl
  | privateUnknown entry below refers unknown =>
    obtain ⟨shared, found, -⟩ := referredTemplate_of_refers below
    rw [userKeys_of_entry entry, found, refers, referredTemplate_of_unknown unknown]
    rfl
  | @layered _ _ _ t entry below above id name isPrivate keys =>
    obtain ⟨shared, foundBelow, rfl⟩ := referredTemplate_of_refers below
    obtain ⟨own, foundAbove, rfl⟩ := referredTemplate_of_refers above
    have same : t = .ofUser shared own := by
      refine KeyTemplate.eq_of_get?_eq id name isPrivate fun position => ?_
      exact (keys position).trans (KeyTemplate.get?_layer _ _ position).symm
    rw [userKeys_of_entry entry, foundBelow, foundAbove, same]
    rfl

theorem exists_userKeys (d : Dump) (userId : UInt64) : ∃ answer, d.UserKeys userId answer := by
  cases listed : d.keyUsers.find? fun u => u.userId == userId with
  | none => exact ⟨_, .unlisted (find?_keyUsers_eq_none_iff.mp listed)⟩
  | some u =>
    have entry : d.UserEntry userId u := find?_keyUsers_eq_some_iff.mp listed
    obtain ⟨a, refers, unknown⟩ | ⟨shared, below⟩ := d.unknown_or_refers u.publicTemplate
    · exact ⟨_, .publicUnknown entry refers unknown⟩
    · obtain ⟨a, refers, unknown⟩ | ⟨own, above⟩ := d.unknown_or_refers u.privateTemplate
      · exact ⟨_, .privateUnknown entry below refers unknown⟩
      · exact ⟨_, .layered (t := shared.layer own) entry below above rfl rfl rfl
          (KeyTemplate.get?_layer shared own)⟩

/-- The keys of a user are those of the first entry with the id. Without one the user is unknown,
which is no error. A public reference to nothing is an error before a private one; if both stand for
templates, each position has the private key if there is one, otherwise the public one, and the
positions are listed in increasing order. -/
theorem userKeys_answer (d : Dump) (userId : UInt64) :
    (∀ answer, d.userKeys userId = answer ↔ d.UserKeys userId answer) ∧
    (d.userKeys userId = .ok none ↔ ∀ u ∈ d.keyUsers, u.userId ≠ userId) ∧
    ∀ t, d.userKeys userId = .ok (some t) → t.positions.Pairwise (· < ·) := by
  have answers (answer) : d.userKeys userId = answer ↔ d.UserKeys userId answer := by
    constructor
    · rintro rfl
      obtain ⟨answer, h⟩ := d.exists_userKeys userId
      exact h.userKeys_eq ▸ h
    · exact UserKeys.userKeys_eq
  refine ⟨answers, ⟨fun h => ?_, userKeys_of_absent⟩, fun t _ => t.positions_increasing⟩
  cases (answers _).mp h with
  | unlisted absent => exact absent

example : Dump.userKeys { keyUsers := [⟨1, some 7, some 8⟩] } 1
    = .error (.unknownKeyTemplate 7) := rfl

end Dump

end PbxTemplates
