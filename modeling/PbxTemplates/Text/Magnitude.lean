import PbxTemplates.Text.Decimal

/-!
# The range of floating point

A numeral with a fraction or an exponent is only asked whether binary floating point of 64 bits has
a finite value for it. One may ask this of the number itself, which is rounded once, or of its
leading digits, which are rounded, multiplied by a rounded power of ten and rounded again. Both is
decided in natural numbers.
-/

namespace PbxTemplates.Decimal

/-! ### Rounded once -/

/-- The least number that rounds to infinity: half a unit above the greatest finite value. -/
def infinityBound : Nat := Nat.pow 2 1024 - Nat.pow 2 970

/-- Whether `mantissa * 10 ^ exponent` is below the least number that rounds to infinity. The number
of digits decides unless it comes near the 309 digits of the bound. -/
def isFinite (mantissa : Nat) (exponent : Int) : Bool :=
  let places := (digits mantissa).length + exponent
  if mantissa = 0 || places < 300 then true
  else if places > 320 then false
  else mantissa * Nat.pow 10 exponent.toNat < infinityBound * Nat.pow 10 (-exponent).toNat

/-! ### Leading digits -/

/-- The nearest number of 53 bits and further zero bits; of two equally near ones that with an even
number in its 53 bits. -/
def roundBits (n : Nat) : Nat :=
  let unit := Nat.pow 2 (n.log2 - 52)
  let q := n / unit
  let r := n % unit
  if 2 * r < unit ∨ (2 * r = unit ∧ q % 2 = 0) then q * unit else (q + 1) * unit

/-- A number given by leading digits and a power of ten. -/
structure Leading where
  /-- The number that the leading digits denote, which needs no more than 64 bits. -/
  significand : Nat
  exponent : Int
deriving DecidableEq

/-- Appends digits to a number as long as it fits 64 bits. Returns the number and how many digits
are left over. -/
def append (n : Nat) : List Char → Nat × Nat
  | [] => (n, 0)
  | c :: rest =>
    let next := 10 * n + digitValue c
    if next < UInt64.size then append next rest else (n, rest.length + 1)

/-- The leading digits of a numeral. Digits left over before the point count as zeros, and those
left over after it do not count. -/
def Leading.ofDigits (whole fraction : List Char) (exponent : Int) : Leading :=
  let (n, zeros) := append 0 whole
  let (significand, ignored) := append n fraction
  ⟨significand, exponent + zeros - (fraction.length - ignored : Nat)⟩

/-- Whether a number given by leading digits has a finite value. -/
def Leading.isFinite (l : Leading) : Bool :=
  if l.significand = 0 || l.exponent < 0 then true
  else if l.exponent > 308 then false
  else roundBits (roundBits l.significand * roundBits (Nat.pow 10 l.exponent.toNat))
    < Nat.pow 2 1024

end PbxTemplates.Decimal
