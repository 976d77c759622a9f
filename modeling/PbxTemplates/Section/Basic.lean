import PbxTemplates.Section.Kind

/-!
# Entries and sections

A section is a list of `key = value` entries whose order is part of its meaning. `Sections` holds
one list per section kind: the raw entries that an endpoint declares, the body that its descendants
inherit and the finished sections all have this shape.

Main statements: `Sections.get_set_self` and `Sections.get_set_of_ne`.
-/

namespace PbxTemplates

@[ext] structure Entry where
  key : String
  value : String
deriving DecidableEq

/-- The entries of one section, in order. -/
abbrev Section := List Entry

namespace Section

def values (s : Section) (key : String) : List String :=
  (s.filter fun e => e.key == key).map (·.value)

/-- The value of a key; of several, the last one counts. -/
def value? (s : Section) (key : String) : Option String := (values s key).getLast?

def hasKey (s : Section) (key : String) : Bool := s.any fun e => e.key == key

def keys (s : Section) : List String := s.map (·.key)

@[simp] theorem values_nil (key : String) : values [] key = [] := rfl

@[simp] theorem values_append (s t : Section) (key : String) :
    values (s ++ t) key = values s key ++ values t key := by
  simp [values]

theorem values_cons (e : Entry) (s : Section) (key : String) :
    values (e :: s) key = if e.key = key then e.value :: values s key else values s key := by
  by_cases h : e.key = key <;> simp [values, h]

end Section

@[ext] structure Sections where
  aor : Section := []
  auth : Section := []
  endpoint : Section := []
  identify : Section := []
  outboundAuth : Section := []
  registration : Section := []
  registrationOutboundAuth : Section := []
deriving DecidableEq, Inhabited

namespace Sections

def get (s : Sections) : SectionKind → Section
  | .aor => s.aor
  | .auth => s.auth
  | .endpoint => s.endpoint
  | .identify => s.identify
  | .outboundAuth => s.outboundAuth
  | .registration => s.registration
  | .registrationOutboundAuth => s.registrationOutboundAuth

def set (s : Sections) (kind : SectionKind) (entries : Section) : Sections :=
  match kind with
  | .aor => { s with aor := entries }
  | .auth => { s with auth := entries }
  | .endpoint => { s with endpoint := entries }
  | .identify => { s with identify := entries }
  | .outboundAuth => { s with outboundAuth := entries }
  | .registration => { s with registration := entries }
  | .registrationOutboundAuth => { s with registrationOutboundAuth := entries }

def ofFn (f : SectionKind → Section) : Sections where
  aor := f .aor
  auth := f .auth
  endpoint := f .endpoint
  identify := f .identify
  outboundAuth := f .outboundAuth
  registration := f .registration
  registrationOutboundAuth := f .registrationOutboundAuth

/-- The same sections with an entry added at the end of one of them. -/
def push (s : Sections) (kind : SectionKind) (e : Entry) : Sections :=
  s.set kind (s.get kind ++ [e])

/-- The kinds whose section has an entry, in the order of building. -/
def populated (s : Sections) : List SectionKind :=
  SectionKind.buildOrder.filter fun kind => !(s.get kind).isEmpty

@[simp] theorem get_ofFn (f : SectionKind → Section) (kind : SectionKind) :
    (ofFn f).get kind = f kind := by cases kind <;> rfl

@[simp] theorem get_set_self (s : Sections) (kind : SectionKind) (entries : Section) :
    (s.set kind entries).get kind = entries := by cases kind <;> rfl

theorem get_set_of_ne (s : Sections) {j kind : SectionKind} (h : j ≠ kind) (entries : Section) :
    (s.set kind entries).get j = s.get j := by
  cases kind <;> cases j <;> first | rfl | exact absurd rfl h

end Sections

end PbxTemplates
