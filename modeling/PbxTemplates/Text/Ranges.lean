/-!
# Ranges of characters
-/

namespace PbxTemplates.Text

/-- Ranges of code points, each with its first and its last one, in ascending order. -/
abbrev Ranges := List (Nat × Nat)

def Ranges.has (rs : Ranges) (c : Char) : Bool := rs.any fun r => r.1 ≤ c.toNat && c.toNat ≤ r.2

end PbxTemplates.Text
