/-
The limiter: a bucket for each tenant that was admitted or throttled.

A limiter bound to a registry takes every budget from the current snapshot, whatever the caller believes; a tenant without a
budget there is revoked and gets no bucket.
-/
import TenantGateway.Limiter.Bucket
import TenantGateway.Registry
import TenantGateway.Table

namespace TenantGateway

structure Limiter (α : Type) where
  buckets : Table String (Bucket α)

namespace Limiter

variable {α : Type}

def empty : Limiter α := ⟨.empty⟩

def size (l : Limiter α) : Nat := l.buckets.size

/-- a tenant's budget: by the snapshot if there is one, else by the caller's word -/
def liveBudget (authority : Option Snapshot) (t : Tenant) : Option Nat :=
  match authority with
  | none => some t.tokensPerMinute
  | some s => s.budget? t.id

variable [Quantity α]

/-- charge `cost` to a tenant's bucket, which is made full when it is first needed -/
def charge (l : Limiter α) (authority : Option Snapshot) (t : Tenant) (cost : Nat) (now : Int) :
    Limiter α × Admission :=
  match liveBudget authority t with
  | none => (l, .revoked)
  | some budget =>
    let bucket := (l.buckets.get? t.id).getD (.full budget now)
    let (bucket, answer) := (bucket.reconfigure budget).tryTake cost now
    (⟨l.buckets.insert t.id bucket⟩, answer)

/-- the whole tokens a tenant has now, if it has a bucket, which is filled up -/
def peek (l : Limiter α) (id : String) (now : Int) : Limiter α × Option Nat :=
  match l.buckets.get? id with
  | none => (l, none)
  | some bucket =>
    let bucket := bucket.refill now
    (⟨l.buckets.insert id bucket⟩, some bucket.remaining)

/-- drop the buckets of tenants without a budget and give the others theirs -/
def sync (l : Limiter α) (s : Snapshot) : Limiter α :=
  ⟨l.buckets.filterMap fun id bucket => (s.budget? id).map bucket.reconfigure⟩

end Limiter

end TenantGateway
