/-
The shortest decimal text of a double: the fewest digits that round back to it, and of those the nearest.

Written positionally at any size, with `.0` where there is no fraction.
-/
import TenantGateway.Decimal.Double

namespace TenantGateway.Decimal

/-- the number `digits * 10 ^ exponent` -/
structure Digits where
  digits : Nat
  exponent : Int
  deriving DecidableEq, Repr

namespace Digits

/-- the value as a fraction -/
def fraction (d : Digits) : Nat × Nat :=
  if 0 ≤ d.exponent then (d.digits * Nat.pow 10 d.exponent.toNat, 1) else (d.digits, Nat.pow 10 (-d.exponent).toNat)

/-- whether the decimal rounds to the double -/
def readsBack (d : Digits) (x : Double) : Bool :=
  let (num, den) := d.fraction
  Double.nearest? num den = some x

/-- the distance of two fractions, over the product of their denominators -/
def gap (a b : Nat × Nat) : Nat :=
  let l := a.1 * b.2
  let r := b.1 * a.2
  if l ≤ r then r - l else l - r

end Digits

/-- the least `e` with `num / den < 10 ^ e`, searched upward from `start` -/
def decimalOrder (num den : Nat) : (fuel : Nat) → (start : Int) → Int
  | 0, e => e
  | fuel + 1, e =>
    let below := if 0 ≤ e then num < den * Nat.pow 10 e.toNat else num * Nat.pow 10 (-e).toNat < den
    if below then e else decimalOrder num den fuel (e + 1)

/-- the points just below and just above the double on the grid of step `10 ^ exponent` -/
def neighbours (x : Double) (exponent : Int) : List Digits :=
  let (num, den) := x.fraction
  let below := if 0 ≤ exponent then num / (den * Nat.pow 10 exponent.toNat) else num * Nat.pow 10 (-exponent).toNat / den
  [⟨below, exponent⟩, ⟨below + 1, exponent⟩]

/-- of the points that read back, the nearest; the first of two at the same distance -/
def choose (x : Double) (candidates : List Digits) : Option Digits :=
  match candidates.filter (·.readsBack x) with
  | [] => none
  | [d] => some d
  | d :: e :: _ =>
    let (num, den) := x.fraction
    if Digits.gap e.fraction (num, den) * d.fraction.2 < Digits.gap d.fraction (num, den) * e.fraction.2 then some e
    else some d

/-- the coarsest grid, from one digit to seventeen, with a point that reads back -/
def shortest (x : Double) : Digits :=
  if x.mantissa = 0 then ⟨0, 0⟩
  else
    let (num, den) := x.fraction
    let order := decimalOrder num den 700 (-330)
    let grids := (List.range 17).map fun n => order - (n + 1 : Nat)
    (grids.findSome? fun e => choose x (neighbours x e)).getD ⟨num / den, 0⟩

/-- digits without the zeros at their end, which move to the exponent -/
def dropZeros : (fuel : Nat) → Digits → Digits
  | 0, d => d
  | fuel + 1, d => if d.digits ≠ 0 ∧ d.digits % 10 = 0 then dropZeros fuel ⟨d.digits / 10, d.exponent + 1⟩ else d

/-- digits and exponent as positional text with a point -/
def positional (d : Digits) : List Char :=
  let d := dropZeros 20 d
  let text := Nat.toDigits 10 d.digits
  if 0 ≤ d.exponent then text ++ List.replicate d.exponent.toNat '0' ++ ['.', '0']
  else
    let places := (-d.exponent).toNat
    if places < text.length then text.take (text.length - places) ++ '.' :: text.drop (text.length - places)
    else '0' :: '.' :: (List.replicate (places - text.length) '0' ++ text)

/-- a number as a plain scalar can hold it -/
inductive Floating where
  | finite (negative : Bool) (size : Double)
  | infinite (negative : Bool)
  | notANumber
  deriving DecidableEq, Repr

namespace Floating

def render : Floating → List Char
  | .finite negative size => (if negative then ['-'] else []) ++ positional (shortest size)
  | .infinite negative => (if negative then ['-'] else []) ++ "inf".toList
  | .notANumber => "NaN".toList

end Floating

end TenantGateway.Decimal
