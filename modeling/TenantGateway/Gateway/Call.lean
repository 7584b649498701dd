/-
Calls to the outside: a token source or a backend is asked and answers, at once, late or never.

`Call.ending` is what the call comes to. An answer that is there at once counts. Otherwise the earliest event decides: the
caller leaves, the answer comes, or the time limit passes; of events at one instant the caller's leaving counts before the
answer and the answer before the limit.
-/
import TenantGateway.Config.Schema

namespace TenantGateway

/-- what is about to happen to a call; spans are nanoseconds from its start -/
structure Call (α : Type) where
  answer : α
  /-- when the answer is there; never, if there is none -/
  delay : Option Nat := some 0
  /-- when the caller leaves, if it does -/
  cancelAfter : Option Nat := none
  /-- the configuration that is loaded while the call runs -/
  reload : Option Config := none
  /-- the configurations that are loaded after it, while the call still runs -/
  laterReloads : List Config := []

/-- what a call came to -/
inductive Ending (α : Type) where
  | answered (answer : α)
  | cancelled
  | timedOut
  deriving DecidableEq, Repr

namespace Call

variable {α : Type}

/-- the configurations that are loaded while the call runs, in their order -/
def reloads (c : Call α) : List Config :=
  c.reload.toList ++ c.laterReloads

/-- whether an instant comes no later than another; never comes last -/
def noLater : Option Nat → Option Nat → Bool
  | some a, some b => a ≤ b
  | some _, none => true
  | none, some _ => false
  | none, none => true

/-- the earlier of two instants -/
def earlier (a b : Option Nat) : Option Nat :=
  if noLater a b then a else b

/-- what the call comes to within a time limit, and how long it takes; where nothing ever happens the caller gives up -/
def ending (c : Call α) (limit : Option Nat) : Ending α × Nat :=
  if c.delay = some 0 then (.answered c.answer, 0)
  else
    let elapsed := (earlier c.cancelAfter (earlier c.delay limit)).getD 0
    if noLater c.cancelAfter (earlier c.delay limit) then (.cancelled, elapsed)
    else if noLater c.delay limit then (.answered c.answer, elapsed)
    else (.timedOut, elapsed)

/-- whether the caller has left when `elapsed` has passed -/
def isCancelledBy (c : Call α) (elapsed : Nat) : Bool :=
  noLater c.cancelAfter (some elapsed)

end Call

end TenantGateway
