/-
The tenant of a request, and the path it is forwarded with.

In path mode the tenant is the first segment of the path and the rest is forwarded; in header mode it is the trimmed first
value of a header and the path stays. The query is forwarded as it is. Where no tenant is named its id is empty.
-/
import TenantGateway.Config.Schema
import TenantGateway.Http.Header
import TenantGateway.Http.Uri
import TenantGateway.Text.Blank

namespace TenantGateway

open Text

namespace TenantSource

/-- the header that names the tenant, if there is one and it can exist -/
def headerName? : TenantSource → Option HeaderName
  | .pathPrefix => none
  | .header name => HeaderName.ofText? name

/-- the first segment of a path, and what is left of the path -/
def splitPath (path : List Char) : List Char × List Char :=
  let (tenant, rest) := cutAt '/' (path.dropWhile (· = '/'))
  (tenant, '/' :: rest.getD [])

/-- the tenant id a header holds: empty where it is missing or not visible text -/
def headerId (name : Option HeaderName) (h : Headers) : String :=
  match (name.bind h.first?).bind HeaderValue.text? with
  | some cs => String.ofList (trimChars cs)
  | none => ""

/-- the tenant id, and the path and query to forward -/
def extract (source : TenantSource) (uri : Uri) (h : Headers) : String × String :=
  match source with
  | .pathPrefix =>
    let (tenant, rest) := splitPath uri.path.toList
    (String.ofList tenant, String.ofList rest ++ uri.queryPart)
  | .header _ => (headerId source.headerName? h, uri.path ++ uri.queryPart)

/-- the headers without the one that named the tenant -/
def consume (source : TenantSource) (h : Headers) : Headers :=
  match source.headerName? with
  | some name => h.remove name
  | none => h

end TenantSource

end TenantGateway
