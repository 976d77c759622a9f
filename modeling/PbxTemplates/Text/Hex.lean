/-!
# Hexadecimal digits
-/

namespace PbxTemplates.Hex

def digit? (c : Char) : Option Nat :=
  if c.isDigit then some (c.toNat - 48)
  else if 'a' ≤ c ∧ c ≤ 'f' then some (c.toNat - 87)
  else if 'A' ≤ c ∧ c ≤ 'F' then some (c.toNat - 55)
  else none

/-- The number denoted by hexadecimal digits, most significant first. -/
def value? (cs : List Char) : Option Nat :=
  cs.foldlM (fun n c => (digit? c).map (16 * n + ·)) 0

def lower (n : Nat) : Char := Char.ofNat (if n < 10 then 48 + n else 87 + n)

def upper (n : Nat) : Char := Char.ofNat (if n < 10 then 48 + n else 55 + n)

def digits (n : Nat) : List Char :=
  if n < 16 then [lower n] else digits (n / 16) ++ [lower (n % 16)]

end PbxTemplates.Hex
