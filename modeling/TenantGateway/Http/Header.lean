/-
Header fields.

A name is a token, compared without regard to ASCII case, so it is kept in lower case. A value is any run of bytes without
control characters other than the tab. `Headers` is a multimap: a name may come several times and its values keep their
order; names do not.
-/
import TenantGateway.Text.Search

namespace TenantGateway

/-- a token character -/
def isTokenChar (c : Char) : Bool :=
  c.isAlphanum || "!#$%&'*+-.^_`|~".toList.contains c

/-- a token: what methods and header names are made of -/
def isToken (s : String) : Bool :=
  !s.isEmpty && s.toList.all isTokenChar

/-- a header name in lower case -/
structure HeaderName where
  text : String
  deriving DecidableEq, Repr

namespace HeaderName

/-- how many bytes a name may have -/
def maxLength : Nat := 65535

def ofText? (s : String) : Option HeaderName :=
  if isToken s && s.toList.length ≤ maxLength then some ⟨String.ofList (Text.lowerAscii s.toList)⟩ else none

def authorization : HeaderName := ⟨"authorization"⟩
def apiKey : HeaderName := ⟨"api-key"⟩
def tenantId : HeaderName := ⟨"x-tenant-id"⟩
def requestId : HeaderName := ⟨"x-request-id"⟩
def rateLimitRemaining : HeaderName := ⟨"x-ratelimit-remaining"⟩
def retryAfter : HeaderName := ⟨"retry-after"⟩
def contentType : HeaderName := ⟨"content-type"⟩
def contentLength : HeaderName := ⟨"content-length"⟩
def connection : HeaderName := ⟨"connection"⟩
def accept : HeaderName := ⟨"accept"⟩
def allow : HeaderName := ⟨"allow"⟩
def location : HeaderName := ⟨"location"⟩
def metadata : HeaderName := ⟨"metadata"⟩
def identityHeader : HeaderName := ⟨"x-identity-header"⟩

/-- the headers that describe one hop and are never relayed -/
def hopByHop : List HeaderName :=
  [connection, ⟨"host"⟩, contentLength, ⟨"proxy-authenticate"⟩, ⟨"proxy-authorization"⟩, ⟨"te"⟩, ⟨"trailer"⟩,
    ⟨"transfer-encoding"⟩, ⟨"upgrade"⟩, ⟨"keep-alive"⟩]

end HeaderName

/-- a header value; a sensitive one is kept out of logs -/
structure HeaderValue where
  bytes : List UInt8
  sensitive : Bool := false
  deriving DecidableEq, Repr

namespace HeaderValue

/-- the bytes a value may hold: the tab, and all but the controls -/
def isAllowed (b : UInt8) : Bool :=
  b = 9 || (0x20 ≤ b && b ≠ 0x7F)

/-- the bytes a value may hold to be read as text -/
def isVisible (b : UInt8) : Bool :=
  b = 9 || (0x20 ≤ b && b ≤ 0x7E)

def ofBytes? (bytes : List UInt8) : Option HeaderValue :=
  if bytes.all isAllowed then some { bytes } else none

def ofText? (s : String) : Option HeaderValue :=
  ofBytes? (Text.bytes s)

/-- a value known to be plain: a number, a fixed word -/
def plain (s : String) : HeaderValue :=
  { bytes := Text.bytes s }

def ofNat (n : Nat) : HeaderValue :=
  plain (toString n)

/-- the value as text, if every byte of it is the tab or visible ASCII -/
def text? (v : HeaderValue) : Option (List Char) :=
  if v.bytes.all isVisible then some (v.bytes.map fun b => Char.ofNat b.toNat) else none

end HeaderValue

/-- header fields in the order in which they were added -/
structure Headers where
  fields : List (HeaderName × HeaderValue)
  deriving DecidableEq, Repr

namespace Headers

def empty : Headers := ⟨[]⟩

/-- the values of a name, in order -/
def values (h : Headers) (name : HeaderName) : List HeaderValue :=
  h.fields.filterMap fun (n, v) => if n = name then some v else none

/-- the first value of a name -/
def first? (h : Headers) (name : HeaderName) : Option HeaderValue :=
  (h.values name).head?

def contains (h : Headers) (name : HeaderName) : Bool :=
  h.fields.any (·.1 = name)

/-- add a field, keeping the others of its name -/
def append (h : Headers) (name : HeaderName) (value : HeaderValue) : Headers :=
  ⟨h.fields ++ [(name, value)]⟩

/-- drop every field of a name -/
def remove (h : Headers) (name : HeaderName) : Headers :=
  ⟨h.fields.filter (·.1 ≠ name)⟩

/-- make `value` the only value of a name -/
def insert (h : Headers) (name : HeaderName) (value : HeaderValue) : Headers :=
  (h.remove name).append name value

/-- drop the headers that describe one hop -/
def stripHopByHop (h : Headers) : Headers :=
  HeaderName.hopByHop.foldl remove h

end Headers

end TenantGateway
