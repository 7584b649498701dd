/-
Replies to callers, and how a failure is told to one.

`Reply.response` is a backend's answer with the caller's remaining tokens and the request's id. `ErrorReply.response` gives
the status of the failure's code, a JSON body with the code, the caller text and the tenant, and the headers about rate, retry
and request. `ErrorBody.json` is the body's text.
-/
import TenantGateway.Error
import TenantGateway.Http.Header
import TenantGateway.Json.Value

namespace TenantGateway

open Text

/-- the body of a failure reply -/
structure ErrorBody where
  code : ErrorCode
  text : String
  tenant : String
  deriving DecidableEq, Repr

namespace ErrorBody

def ofError (e : GatewayError) (tenant : String) : ErrorBody :=
  ⟨e.code, e.publicMessage, tenant⟩

/-- one compact object with the members `error`, `message` and `tenant` -/
def json (b : ErrorBody) : String :=
  String.ofList (Json.writeTexts
    [("error".toList, b.code.name.toList), ("message".toList, b.text.toList), ("tenant".toList, b.tenant.toList)])

end ErrorBody

/-- one piece of a streamed body: data, or the point where the stream breaks -/
inductive Chunk where
  | data (bytes : List UInt8)
  | broken
  deriving DecidableEq, Repr

/-- an HTTP response; its body may come in pieces -/
structure Response where
  status : Nat
  headers : Headers
  body : List Chunk
  deriving DecidableEq, Repr

/-- the bytes of a body, if it does not break -/
def bodyBytes? : List Chunk → Option (List UInt8)
  | [] => some []
  | .data bytes :: rest => (bodyBytes? rest).map (bytes ++ ·)
  | .broken :: _ => none

/-- the successful answer to a request -/
structure Reply where
  requestId : String
  status : Nat
  headers : Headers
  body : List Chunk
  /-- the tokens the tenant has left -/
  remaining : Nat
  /-- the tenant whose streamed bytes are counted while the body is passed on, if they are -/
  countedFor : Option String := none
  deriving DecidableEq, Repr

/-- a failure on its way to the caller, with what is known about the request -/
structure ErrorReply where
  error : GatewayError
  tenant : String
  requestId : Option String := none
  remaining : Option Nat := none
  deriving DecidableEq, Repr

namespace Headers

/-- set a header if there is a value for it -/
def insertIf (h : Headers) (name : HeaderName) (value : Option HeaderValue) : Headers :=
  match value with
  | some v => h.insert name v
  | none => h

end Headers

/-- the backend's answer with the gateway's two headers -/
def Reply.response (r : Reply) : Response :=
  { status := r.status
    headers := (r.headers.insert .rateLimitRemaining (.ofNat r.remaining)).insertIf .requestId
      (HeaderValue.ofText? r.requestId)
    body := r.body }

namespace ErrorReply

/-- seconds a caller should wait after a backend timeout -/
def timeoutRetryAfter : Nat := 1

/-- the seconds to wait before a retry, for the failures that invite one -/
def retryAfter? (e : GatewayError) : Option Nat :=
  match e with
  | .throttled _ seconds => some seconds
  | .backendTimeout _ => some timeoutRetryAfter
  | _ => none

/-- the remaining tokens to report: a throttled request reports those of its own decision -/
def reportedRemaining? (r : ErrorReply) : Option Nat :=
  match r.error with
  | .throttled remaining _ => some remaining
  | _ => r.remaining

def headers (r : ErrorReply) : Headers :=
  Headers.empty
    |>.insert .contentType (.plain "application/json")
    |>.insertIf .retryAfter ((retryAfter? r.error).map .ofNat)
    |>.insertIf .rateLimitRemaining (r.reportedRemaining?.map .ofNat)
    |>.insertIf .requestId (r.requestId.bind HeaderValue.ofText?)

def response (r : ErrorReply) : Response :=
  { status := r.error.code.status
    headers := r.headers
    body := [.data (Text.bytes (ErrorBody.ofError r.error r.tenant).json)] }

end ErrorReply

end TenantGateway
