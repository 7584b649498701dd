/-
The HTTP client.

`Client.exchange` sends a request over a network and follows redirects: with a plain read after 303, and after 301 and 302 if
something was posted, and otherwise with the same request. A network is any function that answers a request to a URL, or fails
to.
-/
import TenantGateway.Http.Framing
import TenantGateway.Http.Uri
import TenantGateway.Http.Url
import TenantGateway.Text.Base64

namespace TenantGateway

open Text

/-- a request on the wire -/
structure WireRequest where
  method : String
  url : Url
  headers : Headers
  body : List UInt8
  deriving DecidableEq, Repr

/-- what the first line of a request asks for: a tunnel is asked for by its end, all else by path and query -/
def WireRequest.target (r : WireRequest) : String :=
  if r.method = "CONNECT" then String.ofList r.url.renderPlace else r.url.target

/-- what is at the other end of every connection; `W` is whatever it keeps of the requests -/
structure Network (W : Type) where
  send : W → WireRequest → Option Response × W

/-- why there is no answer -/
inductive ClientError where
  /-- the text is no URL, or a header value cannot be sent -/
  | malformed
  /-- nothing can be asked of this URL -/
  | unusable (url : Url)
  /-- a connection failed on the way to an answer for this URL -/
  | failed (url : Url)
  /-- one redirect too many, at this URL -/
  | redirected (url : Url)
  /-- the body of the answer is not what it should be -/
  | undecodable
  deriving DecidableEq, Repr

namespace ClientError

def withUrl (text : String) (u : Url) : String :=
  text ++ " for url (" ++ u.render ++ ")"

def message : ClientError → String
  | malformed => "builder error"
  | unusable url => withUrl "builder error" url
  | failed url => withUrl "error sending request" url
  | redirected url => withUrl "error following redirect" url
  | undecodable => "error decoding response body"

end ClientError

namespace HeaderValue

/-- a value as it arrives: without blanks at its ends -/
def trimmed (v : HeaderValue) : HeaderValue :=
  let isEdge (b : UInt8) : Bool := b = 9 || b = 0x20
  { v with bytes := ((v.bytes.dropWhile isEdge).reverse.dropWhile isEdge).reverse }

end HeaderValue

namespace Headers

/-- the fields as they arrive -/
def arrived (h : Headers) : Headers :=
  ⟨h.fields.map fun (name, value) => (name, value.trimmed)⟩

/-- take over fields; the names among them lose the values they had -/
def replace (h new : Headers) : Headers :=
  ⟨h.fields.filter (fun f => !new.contains f.1) ++ new.fields⟩

end Headers

namespace Client

variable {W : Type}

/-- the authorization that a name and a password in a URL stand for -/
def basicAuthorization? (u : Url) : Option HeaderValue := do
  let name ← percentDecodeText? u.username
  let password := u.password.bind percentDecodeText?
  if name.isEmpty && password.isNone then none
  let digits := base64 (bytes (String.ofList (name ++ ':' :: password.getD [])))
  return { HeaderValue.plain ("Basic " ++ String.ofList digits) with sensitive := true }

/-- a request to a URL, whose name and password become a header -/
def request (method : String) (u : Url) : WireRequest :=
  match basicAuthorization? u with
  | some v => ⟨method, u.withoutCredentials, Headers.empty.insert .authorization v, []⟩
  | none => ⟨method, u, .empty, []⟩

/-- whether an answer with this status ends the exchange; an interim answer does not, and nothing comes after it -/
def isFinal (status : Nat) : Bool :=
  status = 101 || (200 ≤ status && status < 1000)

/-- whether an answer comes without a body -/
def hasNoBody (method : String) (status : Nat) : Bool :=
  method = "HEAD" || status < 200 || status = 204 || status = 304
    || (method = "CONNECT" && status < 300)

/-- whether a URL can be asked -/
def isUsable (u : Url) : Bool :=
  u.isHttp && (Uri.parse u.render).isSome

/-- an answer as it is understood: a final one whose headers are not too many and tell how far its body goes -/
def understood? (method : String) (answer : Response) : Option Response := do
  if maxFields < answer.headers.fields.length || !isFinal answer.status then none
  let headers := answer.headers.arrived
  if hasNoBody method answer.status then return { answer with headers, body := [] }
  let extent ← Extent.ofHeaders? headers
  return { answer with headers, body := extent.read answer.body }

/-- send a request once; `first` is the URL that was asked before any redirect -/
def send (n : Network W) (w : W) (first : Url) (r : WireRequest) : Except ClientError Response × W :=
  if !isUsable r.url then (.error (.unusable r.url), w)
  else
    let headers := if r.headers.contains .accept then r.headers else r.headers.append .accept (.plain "*/*")
    match n.send w { r with headers := headers.arrived } with
    | (none, w) => (.error (.failed first), w)
    | (some answer, w) =>
      match understood? r.method answer with
      | some answer => (.ok answer, w)
      | none => (.error (.failed first), w)

/-- the URL an answer redirects to -/
def redirectTarget? (here : Url) (answer : Response) : Option Url := do
  let isRedirect := [301, 302, 303, 307, 308].contains answer.status
  let location ← if isRedirect then answer.headers.first? .location else none
  let text ← String.fromUTF8? (ByteArray.mk location.bytes.toArray)
  let u ← Url.parse (some here) text
  if (Uri.parse u.render).isSome then some u.asked else none

/-- the headers that tell of a body -/
def bodyHeaders : List HeaderName :=
  [⟨"transfer-encoding"⟩, ⟨"content-encoding"⟩, .contentType, .contentLength]

/-- the headers that are meant for one server -/
def privateHeaders : List HeaderName :=
  [.authorization, ⟨"cookie"⟩, ⟨"cookie2"⟩, ⟨"proxy-authorization"⟩, ⟨"www-authenticate"⟩]

/-- the request that follows a redirect with this status to this URL -/
def redirected (r : WireRequest) (status : Nat) (u : Url) : WireRequest :=
  let rereads := status = 303 || ((status = 301 || status = 302) && r.method = "POST")
  let headers := if rereads then bodyHeaders.foldl Headers.remove r.headers else r.headers
  let referer := { r.url.withoutCredentials with fragment := none }
  let leaks := u.scheme = Url.http && r.url.scheme = Url.https
  let headers := if leaks then headers else headers.insertIf ⟨"referer"⟩ (HeaderValue.ofText? referer.render)
  let sameServer := u.host = r.url.host && u.connectionPort? = r.url.connectionPort?
  { method := if rereads && r.method ≠ "HEAD" then "GET" else r.method
    url := u
    headers := if sameServer then headers else privateHeaders.foldl Headers.remove headers
    body := if rereads then [] else r.body }

/-- how many redirects are followed -/
def redirectLimit : Nat := 10

/-- send a request and follow up to `left` redirects; `first` is the URL that was asked before any -/
def follow (n : Network W) (first : Url) : (left : Nat) → W → WireRequest → Except ClientError Response × W
  | left, w, r =>
    match send n w first r with
    | (.error e, w) => (.error e, w)
    | (.ok answer, w) =>
      match redirectTarget? r.url answer, left with
      | none, _ => (.ok answer, w)
      | some _, 0 => (.error (.redirected r.url.asked), w)
      | some u, left + 1 => follow n first left w (redirected r answer.status u)

/-- send a request, redirects followed -/
def exchange (n : Network W) (w : W) (r : WireRequest) : Except ClientError Response × W :=
  follow n r.url redirectLimit w r

end Client

end TenantGateway
