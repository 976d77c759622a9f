import PbxTemplates.Section.Basic
import PbxTemplates.SortedMap

/-!
# Canonical sections

A section is written from a stream of entries that come from several places, oldest first. A key
that may stand only once keeps the place of its first entry and the value of its last one. A
repeatable key keeps all its different values in stream order. The canonical section lists the
single entries before the repeated ones.
-/

namespace PbxTemplates

/-- The rule that tells repeatable keys from single ones. -/
@[ext] structure Canonicalizer where
  /-- The keys that may stand several times in a section. -/
  repeatable : SortedSet String
deriving DecidableEq

namespace Canonicalizer

/-- The keys that are always repeatable. -/
def standardKeys : List String := ["set_var", "match"]

def standard : Canonicalizer := ⟨.ofKeys standardKeys⟩

instance : Inhabited Canonicalizer := ⟨standard⟩

def allowing (c : Canonicalizer) (keys : List String) : Canonicalizer :=
  ⟨c.repeatable.insertMany (keys.map fun k => (k, ()))⟩

def isRepeatable (c : Canonicalizer) (key : String) : Bool := c.repeatable.contains key

/-- Puts an entry in the place of the one with its key, or at the end. -/
def assign (e : Entry) : Section → Section
  | [] => [e]
  | a :: rest => if a.key = e.key then e :: rest else a :: assign e rest

/-- Adds an entry at the end unless the same entry is already there. -/
def adjoin (e : Entry) (s : Section) : Section := if e ∈ s then s else s ++ [e]

/-- A section under construction: the single entries and the repeated ones. -/
structure Draft where
  /-- At most one entry per key. -/
  singles : Section := []
  /-- Entries with repeatable keys, no two alike. -/
  repeats : Section := []

/-- The draft with one more entry of the stream taken in. -/
def add (c : Canonicalizer) (d : Draft) (e : Entry) : Draft :=
  if c.isRepeatable e.key then { d with repeats := adjoin e d.repeats }
  else { d with singles := assign e d.singles }

/-- The canonical section of a stream of entries. -/
def canonicalize (c : Canonicalizer) (stream : Section) : Section :=
  let d := stream.foldl c.add {}
  d.singles ++ d.repeats

end Canonicalizer

end PbxTemplates
