/-
The numbers that bucket levels are made of.

The limiter is written once for any such numbers. It runs on doubles; on rationals the same rules are exact.
-/
namespace TenantGateway

class Quantity (α : Type) where
  ofNat : Nat → α
  /-- a span of time in seconds, from its nanoseconds -/
  seconds : (nanoseconds : Nat) → α
  add : α → α → α
  sub : α → α → α
  mul : α → α → α
  div : α → α → α
  le : α → α → Bool
  floor : α → Nat
  ceil : α → Nat

namespace Quantity

def min {α : Type} [Quantity α] (a b : α) : α :=
  if le a b then a else b

/-- nanoseconds in a second -/
def perSecond : Nat := 1000000000

instance : Quantity Float where
  ofNat n := (UInt64.ofNat n).toFloat
  seconds n := (UInt64.ofNat (n / perSecond)).toFloat + (UInt64.ofNat (n % perSecond)).toFloat / 1e9
  add a b := a + b
  sub a b := a - b
  mul a b := a * b
  div a b := a / b
  le a b := a ≤ b
  floor a := a.toUInt64.toNat
  ceil a := a.ceil.toUInt64.toNat

instance : Quantity Rat where
  ofNat n := n
  seconds n := (n : Rat) / perSecond
  add a b := a + b
  sub a b := a - b
  mul a b := a * b
  div a b := a / b
  le a b := a ≤ b
  floor a := a.floor.toNat
  ceil a := a.ceil.toNat

end Quantity

end TenantGateway
