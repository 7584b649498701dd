/-
The fixed token source, for backends that accept one token from everyone.
-/
import TenantGateway.Auth.Cache
import TenantGateway.Text.Blank

namespace TenantGateway

/-- nanoseconds in a day -/
def oneDay : Nat := 24 * 3600 * 1000000000

namespace FixedToken

/-- the name of the source -/
def sourceName : String := "static"

/-- the answer to every fetch: the token, for a day -/
def answer (token : String) : FetchAnswer :=
  .ok ⟨token, oneDay⟩

/-- the token in a variable of the environment; it may not be blank -/
def ofVariable (environment : List (String × String)) (name : String) : Except GatewayError String :=
  match environment.lookup name with
  | none => .error (.badRequest ("env var " ++ name ++ " is not set"))
  | some token =>
    if Text.isBlankText token then .error (.badRequest ("env var " ++ name ++ " is empty")) else .ok token

end FixedToken

end TenantGateway
