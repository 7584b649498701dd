/-
The stages of a request.

A request goes from stage to stage in one fixed order and ends completed or errored; it can fail from every stage before the
end.
-/
import TenantGateway.Error

namespace TenantGateway

inductive Stage where
  | received
  | matched
  | authenticated
  | rateChecked
  | dispatched
  | completed
  | errored (code : ErrorCode)
  deriving DecidableEq, Repr

namespace Stage

def name : Stage → String
  | .received => "received"
  | .matched => "matched"
  | .authenticated => "authenticated"
  | .rateChecked => "rate_checked"
  | .dispatched => "dispatched"
  | .completed => "completed"
  | .errored _ => "errored"

/-- the failure that ended the request -/
def code? : Stage → Option ErrorCode
  | .errored code => some code
  | _ => none

/-- whether the request has ended -/
def isTerminal : Stage → Bool
  | .completed | .errored _ => true
  | _ => false

/-- the stage that may follow -/
def next? : Stage → Option Stage
  | .received => some .matched
  | .matched => some .authenticated
  | .authenticated => some .rateChecked
  | .rateChecked => some .dispatched
  | .dispatched => some .completed
  | .completed | .errored _ => none

/-- go to a stage if it is the one that follows; also, whether it was -/
def advance (s next : Stage) : Stage × Bool :=
  if s.next? = some next then (next, true) else (s, false)

/-- fail, unless the request has ended -/
def fail (s : Stage) (code : ErrorCode) : Stage :=
  if s.isTerminal then s else .errored code

end Stage

end TenantGateway
