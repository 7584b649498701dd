/-
Token buckets.

A bucket fills evenly, to its capacity within a minute, and a charge takes tokens from it if it holds enough. Instants are
nanoseconds from a fixed start; one that is not later than the last refill adds nothing.
-/
import TenantGateway.Limiter.Quantity

namespace TenantGateway

open Quantity

/-- the answer to a request for tokens -/
inductive Admission where
  | admitted (remaining : Nat)
  | throttled (remaining retryAfter : Nat)
  /-- the tenant is not registered or not enabled; nothing was charged -/
  | revoked
  deriving DecidableEq, Repr

namespace Admission

def remaining : Admission → Nat
  | .admitted remaining => remaining
  | .throttled remaining _ => remaining
  | .revoked => 0

def isAdmitted : Admission → Bool
  | .admitted _ => true
  | _ => false

end Admission

structure Bucket (α : Type) where
  capacity : α
  tokens : α
  /-- the latest instant it was filled up to -/
  last : Int
  deriving DecidableEq, Repr

namespace Bucket

variable {α : Type} [Quantity α]

/-- the capacity of a budget, one token at least -/
def capacityOf (budget : Nat) : α :=
  ofNat (max budget 1)

/-- a full bucket -/
def full (budget : Nat) (now : Int) : Bucket α :=
  ⟨capacityOf budget, capacityOf budget, now⟩

/-- take on a new budget and keep the tokens it can hold -/
def reconfigure (b : Bucket α) (budget : Nat) : Bucket α :=
  { b with capacity := capacityOf budget, tokens := min b.tokens (capacityOf budget) }

/-- add what has come in since the last refill -/
def refill (b : Bucket α) (now : Int) : Bucket α :=
  if now ≤ b.last then b
  else
    let earned := mul (seconds (now - b.last).toNat) (div b.capacity (ofNat 60))
    { b with tokens := min (add b.tokens earned) b.capacity, last := now }

/-- the whole tokens it holds -/
def remaining (b : Bucket α) : Nat :=
  floor b.tokens

/-- whole seconds, at least one, until the bucket holds `cost` -/
def wait (b : Bucket α) (cost : Nat) : Nat :=
  max 1 (ceil (div (mul (sub (ofNat cost) b.tokens) (ofNat 60)) b.capacity))

/-- fill up and charge `cost` if the bucket holds it -/
def tryTake (b : Bucket α) (cost : Nat) (now : Int) : Bucket α × Admission :=
  let b := b.refill now
  if le (ofNat cost) b.tokens then
    let b := { b with tokens := sub b.tokens (ofNat cost) }
    (b, .admitted b.remaining)
  else (b, .throttled b.remaining (b.wait cost))

end Bucket

end TenantGateway
