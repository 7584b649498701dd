/-
Double-precision numbers in exact arithmetic.

A finite positive double is a mantissa below 2^53 times a power of two not below 2^-1074. `Double.nearest?` rounds a positive
fraction to the nearest one, a tie to the even mantissa, and has no answer beyond the largest.
-/
namespace TenantGateway.Decimal

/-- the positive number `mantissa * 2 ^ scale`, or zero -/
structure Double where
  mantissa : Nat
  scale : Int
  deriving DecidableEq, Repr

namespace Double

/-- the number of bits of a mantissa -/
def precision : Nat := 53

/-- the least power of two -/
def minScale : Int := -1074

/-- the greatest power of two -/
def maxScale : Int := 971

/-- a quotient rounded to the nearest whole number, a tie to the even one -/
def roundDiv (num den : Nat) : Nat :=
  let whole := num / den
  let twice := 2 * (num % den)
  if twice < den then whole
  else if den < twice then whole + 1
  else if whole % 2 = 0 then whole else whole + 1

/-- the greatest `k` with `2 ^ k * den ≤ num`, both positive -/
def floorLog2 (num den : Nat) : Int :=
  let k : Int := (Nat.log2 num : Int) - (Nat.log2 den : Int)
  let reaches := if 0 ≤ k then den * Nat.pow 2 k.toNat ≤ num else den ≤ num * Nat.pow 2 (-k).toNat
  if reaches then k else k - 1

/-- the nearest double to the fraction `num / den`, if it is finite -/
def nearest? (num den : Nat) : Option Double :=
  if num = 0 then some ⟨0, minScale⟩
  else
    let scale := max (floorLog2 num den - (precision - 1 : Nat)) minScale
    let mantissa :=
      if 0 ≤ scale then roundDiv num (den * Nat.pow 2 scale.toNat) else roundDiv (num * Nat.pow 2 (-scale).toNat) den
    let (mantissa, scale) := if mantissa = Nat.pow 2 precision then (Nat.pow 2 (precision - 1), scale + 1) else (mantissa, scale)
    if maxScale < scale then none else some ⟨mantissa, scale⟩

/-- the double as a fraction -/
def fraction (d : Double) : Nat × Nat :=
  if 0 ≤ d.scale then (d.mantissa * Nat.pow 2 d.scale.toNat, 1) else (d.mantissa, Nat.pow 2 (-d.scale).toNat)

/-- the nearest double to the product, if it is finite -/
def product? (a b : Double) : Option Double :=
  nearest? (a.fraction.1 * b.fraction.1) (a.fraction.2 * b.fraction.2)

end Double

end TenantGateway.Decimal
