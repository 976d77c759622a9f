import PbxTemplates.Section.Canonical

/-!
# Settings of the program

A settings file says which further keys are repeatable and how records are written.
-/

namespace PbxTemplates

@[ext] structure ResolverSettings where
  /-- The keys that are repeatable besides the standard ones. -/
  extraRepeatableKeys : List String := []
deriving DecidableEq, Inhabited

@[ext] structure OutputSettings where
  /-- Whether records are written with one line per item. -/
  pretty : Bool := true
  /-- Whether the counts of the resolution are written, too. -/
  includeStats : Bool := false
deriving DecidableEq, Inhabited

@[ext] structure Settings where
  resolver : ResolverSettings := {}
  output : OutputSettings := {}
deriving DecidableEq, Inhabited

def ResolverSettings.canonicalizer (s : ResolverSettings) : Canonicalizer :=
  Canonicalizer.standard.allowing s.extraRepeatableKeys

end PbxTemplates
