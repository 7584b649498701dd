/-
URLs, as they are typed, resolved and written.

`Url.parse` reads a text, on its own or relative to another URL. Blanks at the ends, tabs and line ends are dropped; what may
not stand in a part as it is gets percent-encoded; dot segments are resolved, but do not lead out of a drive. For the schemes
that are known here a backslash counts as a slash, the host must be one, and the usual `portNumber` is left out. `Url.render`
is the usual text.
-/
import TenantGateway.Http.Host

namespace TenantGateway

open Text

/-- the path of a URL: segments, or for some schemes a text without structure -/
inductive UrlPath where
  | segments (parts : List (List Char))
  | text (value : List Char)
  deriving DecidableEq, Repr

/-- the segments of a path, none of a text -/
def UrlPath.parts : UrlPath → List (List Char)
  | .segments parts => parts
  | .text _ => []

structure Url where
  scheme : List Char
  /-- the name and the password for the server, encoded -/
  username : List Char := []
  password : Option (List Char) := none
  host : Option (List Char) := none
  portNumber : Option Nat := none
  path : UrlPath := .segments []
  query : Option (List Char) := none
  fragment : Option (List Char) := none
  deriving DecidableEq, Repr

namespace Url

/-! ## What is encoded where -/

def isControl (c : Char) : Bool := c.toNat < 0x20 || 0x7E < c.toNat

def inFragment (c : Char) : Bool := isControl c || " \"<>\x60".toList.contains c

def inQuery (c : Char) : Bool := isControl c || " \"#<>".toList.contains c

def inKnownQuery (c : Char) : Bool := inQuery c || c = '\''

def inPath (c : Char) : Bool := inFragment c || "#?\x7b\x7d".toList.contains c

def inUserInfo (c : Char) : Bool := inPath c || "/:;=@[\\]^|".toList.contains c

/-! ## Schemes -/

def http : List Char := "http".toList

def https : List Char := "https".toList

def file : List Char := "file".toList

/-- where servers of the known schemes usually listen -/
def usualPort? (scheme : List Char) : Option Nat :=
  if scheme = http || scheme = "ws".toList then some 80
  else if scheme = https || scheme = "wss".toList then some 443
  else if scheme = "ftp".toList then some 21
  else none

/-- whether the scheme names hosts by domain or address -/
def isKnown (scheme : List Char) : Bool :=
  (usualPort? scheme).isSome || scheme = file

def isSchemeChar (c : Char) : Bool :=
  c.isAlphanum || c = '+' || c = '-' || c = '.'

/-- the scheme a text begins with, in lower case, and what follows its colon -/
def cutScheme (cs : List Char) : Option (List Char × List Char) :=
  let scheme := cs.takeWhile isSchemeChar
  match scheme, cs.drop scheme.length with
  | c :: _, ':' :: rest => if c.isAlpha then some (lowerAscii scheme, rest) else none
  | _, _ => none

/-! ## Parts -/

/-- whether a character separates segments -/
def isSlash (known : Bool) (c : Char) : Bool :=
  c = '/' || (known && c = '\\')

/-- the segments between slashes -/
def split (known : Bool) : List Char → List (List Char)
  | [] => [[]]
  | c :: rest =>
    if isSlash known c then [] :: split known rest
    else
      match split known rest with
      | part :: parts => (c :: part) :: parts
      | [] => [[c]]

/-- a segment with its encoded dots decoded and in lower case -/
def plainDots (segment : List Char) : List Char :=
  match lowerAscii segment with
  | '%' :: '2' :: 'e' :: rest =>
    match rest with
    | '%' :: '2' :: 'e' :: [] => ['.', '.']
    | rest => '.' :: rest
  | '.' :: '%' :: '2' :: 'e' :: [] => ['.', '.']
  | cs => cs

/-- whether a segment names a drive -/
def isDrive : List Char → Bool
  | [c, mark] => c.isAlpha && (mark = ':' || mark = '|')
  | _ => false

/-- the path one segment up; there is no way up from a drive -/
def up (path : List (List Char)) : List (List Char) :=
  if path.getLast?.any isDrive then path else path.dropLast

/-- add segments to those of a path, going up for two dots and staying for one -/
def addSegments (path : List (List Char)) : List (List Char) → List (List Char)
  | [] => path
  | segment :: rest =>
    let dots := plainDots segment
    let path :=
      if dots = ['.', '.'] then (if rest.isEmpty then up path ++ [[]] else up path)
      else if dots = ['.'] then (if rest.isEmpty then path ++ [[]] else path)
      else path ++ [percentEncode inPath segment]
    addSegments path rest

/-- the path given after a host -/
def absolutePath (known : Bool) (cs : List Char) : UrlPath :=
  match cs with
  | [] => .segments (if known then [[]] else [])
  | c :: rest => .segments (addSegments [] (split known (if isSlash known c then rest else c :: rest)))

/-- a text cut into path, query and fragment -/
def cutTail (cs : List Char) : List Char × Option (List Char) × Option (List Char) :=
  let (front, fragment) := cutAt '#' cs
  let (path, query) := cutAt '?' front
  (path, query, fragment)

/-- the query and the fragment, encoded -/
def withTail (u : Url) (query fragment : Option (List Char)) : Url :=
  { u with
    query := query.map (percentEncode (if isKnown u.scheme then inKnownQuery else inQuery))
    fragment := fragment.map (percentEncode inFragment) }

/-- what stands before and after the last of a character -/
def cutAtLast (mark : Char) (cs : List Char) : Option (List Char × List Char) :=
  if cs.contains mark then
    let after := (cs.reverse.takeWhile (· ≠ mark)).reverse
    some (cs.take (cs.length - after.length - 1), after)
  else none

/-- host and `portNumber`; colons within brackets belong to the host -/
def cutPort (cs : List Char) : List Char × Option (List Char) :=
  match cs with
  | '[' :: _ =>
    let (inner, after) := cutAt ']' cs
    match after with
    | none => (cs, none)
    | some rest =>
      let (more, portNumber) := cutAt ':' rest
      (inner ++ ']' :: more, portNumber)
  | cs => cutAt ':' cs

/-- a `portNumber` in digits; an empty one and the usual one are left out -/
def readPort (scheme cs : List Char) : Option (Option Nat) :=
  if cs.all Char.isDigit then
    let n := cs.foldl (fun n c => n * 10 + (c.toNat - '0'.toNat)) 0
    if 65535 < n then none else some (if cs.isEmpty || usualPort? scheme = some n then none else some n)
  else none

/-- whether a character ends what names a server -/
def endsAuthority (known : Bool) (c : Char) : Bool :=
  isSlash known c || c = '?' || c = '#'

/-- a URL from what follows the slashes before its host. For a scheme that is not known the host may be left out together with
user and `portNumber`. A backslash ends the `portNumber` even where it is no slash -/
def parseAuthority (scheme cs : List Char) : Option Url := do
  let known := isKnown scheme
  let authority := cs.takeWhile (!endsAuthority known ·)
  let (path, query, fragment) := cutTail (cs.drop authority.length)
  let (userInfo, place) := match cutAtLast '@' authority with
    | some (userInfo, place) => (userInfo, place)
    | none => ([], authority)
  let (username, password) := cutAt ':' userInfo
  let password := password.filter (!·.isEmpty)
  let (host, portNumber) := cutPort place
  let isNobody := username.isEmpty && password.isNone
  let isLone := place.isEmpty && userInfo.isEmpty && !authority.isEmpty && authority.length < cs.length
  if host.isEmpty && (!isNobody || portNumber.isSome || isLone) then none
  let host ← if known then Host.parse host else Host.parseOther host
  let (digits, _) := cutAt '\\' (portNumber.getD [])
  let path := (portNumber.getD []).drop digits.length ++ path
  let portNumber ← readPort scheme digits
  let encode := percentEncode inUserInfo
  let u : Url :=
    { scheme, host := some host, portNumber, path := absolutePath known path
      username := encode username
      password := password.map encode }
  return u.withTail query fragment

/-- the path of a file, which does not begin with empty segments -/
def filePath (segments : List (List Char)) : UrlPath :=
  match segments.dropWhile List.isEmpty with
  | [] => .segments [[]]
  | segments => .segments segments

/-- a URL of a file on a server; where the path leads to a drive there is no server -/
def fileOn (host : List Char) (path : List Char) : Url :=
  match addSegments [] (split true path) with
  | segment :: rest =>
    if isDrive segment then { scheme := file, host := some [], path := filePath (segment.set 1 ':' :: rest) }
    else { scheme := file, host := some host, path := filePath (segment :: rest) }
  | [] => { scheme := file, host := some host, path := filePath [] }

/-- a URL of a file on no server, from a path with a slash in front -/
def localFile (path : List Char) : Url :=
  { scheme := file, host := some [], path := filePath (addSegments [] (split true path)) }

/-- a URL of a file; its host comes after two slashes and is mostly left out -/
def parseFile (cs : List Char) : Option Url := do
  let slashes := (cs.takeWhile (isSlash true)).length
  let place := if 2 ≤ slashes then (cs.drop 2).takeWhile (!endsAuthority true ·) else []
  let isPath := place.isEmpty || isDrive place
  let host ← if isPath then some [] else Host.parse place
  let host := if host = "localhost".toList then [] else host
  let (path, query, fragment) := cutTail (if slashes < 2 then cs else cs.drop (if isPath then 2 else 2 + place.length))
  let u : Url :=
    if host.isEmpty && (path.isEmpty || path.head?.any (isSlash true)) then localFile path
    else fileOn host (path.drop (if host.isEmpty then 0 else 1))
  return u.withTail query fragment

/-- a URL of a scheme that is not known -/
def parseOther (scheme cs : List Char) : Option Url :=
  match cs with
  | '/' :: '/' :: rest => parseAuthority scheme rest
  | cs =>
    let (path, query, fragment) := cutTail cs
    let path : UrlPath := match path with
      | '/' :: _ => absolutePath false path
      | path => .text (percentEncode isControl path)
    some (({ scheme, path } : Url).withTail query fragment)

/-- a URL of a known scheme from a text without one, relative to `base` -/
def resolve (base : Url) (cs : List Char) : Option Url :=
  let slashes := cs.takeWhile (isSlash true)
  if slashes.length ≥ 2 then
    -- of two plain slashes no third one is taken along
    parseAuthority base.scheme (cs.drop (if ['/', '/'].isPrefixOf cs then 2 else slashes.length))
  else
    let (path, query, fragment) := cutTail cs
    let place : Url :=
      if slashes.length = 1 then { base with path := absolutePath true path }
      else if path.isEmpty then base
      else { base with path := .segments (addSegments base.path.parts.dropLast (split true path)) }
    let kept := if path.isEmpty && query.isNone then base.query else none
    let resolved := place.withTail query fragment
    some { resolved with query := resolved.query.or kept }

/-- a text without blanks and controls at its ends and without tabs and line ends -/
def clean (cs : List Char) : List Char :=
  let isEdge (c : Char) : Bool := c.toNat ≤ 0x20
  (((cs.dropWhile isEdge).reverse.dropWhile isEdge).reverse).filter fun c => !(c = '\t' || c = '\n' || c = '\r')

/-- read a URL; without a scheme it is relative to `base`, which must be of a known scheme other than that of files -/
def parse (base : Option Url) (s : String) : Option Url :=
  let cs := clean s.toList
  match cutScheme cs with
  | none => base.bind (·.resolve cs)
  | some (scheme, rest) =>
    if scheme = file then parseFile rest
    else if isKnown scheme then
      let slashes := rest.takeWhile (isSlash true)
      match base with
      | some base =>
        if slashes.length < 2 && base.scheme = scheme then base.resolve rest
        else parseAuthority scheme (rest.drop slashes.length)
      | none => parseAuthority scheme (rest.drop slashes.length)
    else parseOther scheme rest

/-! ## Texts -/

/-- the path as it is written -/
def renderPath (u : Url) : List Char :=
  match u.path with
  | .text value => value
  | .segments parts =>
    let written := parts.flatMap fun part => '/' :: part
    if u.host.isNone && parts.head? = some [] && parts.length > 1 then '/' :: '.' :: written else written

/-- the host with its `portNumber` -/
def renderPlace (u : Url) : List Char :=
  u.host.getD [] ++ (match u.portNumber with | some n => ':' :: (toString n).toList | none => [])

/-- name, password and place, after two slashes -/
def renderAuthority (u : Url) : List Char :=
  if u.host.isNone then []
  else
    let password := match u.password with | some p => ':' :: p | none => []
    let userInfo := u.username ++ password
    '/' :: '/' :: ((if userInfo.isEmpty then [] else userInfo ++ ['@']) ++ u.renderPlace)

/-- a part with the mark before it, nothing where there is no part -/
def marked (mark : Char) (part : Option (List Char)) : List Char :=
  match part with
  | some cs => mark :: cs
  | none => []

def render (u : Url) : String :=
  String.ofList (u.scheme ++ ':' :: (u.renderAuthority ++ u.renderPath ++ marked '?' u.query ++ marked '#' u.fragment))

/-- what is asked of the server: the path with the query -/
def target (u : Url) : String :=
  String.ofList (u.renderPath ++ marked '?' u.query)

/-- whether it names a host -/
def hasHost (u : Url) : Bool :=
  u.host.any (!·.isEmpty)

/-- whether it is fetched over HTTP -/
def isHttp (u : Url) : Bool :=
  u.scheme = http || u.scheme = https

/-- the `portNumber` that is connected to -/
def connectionPort? (u : Url) : Option Nat :=
  u.portNumber.or (usualPort? u.scheme)

/-- the same URL without name and password -/
def withoutCredentials (u : Url) : Url :=
  { u with username := [], password := none }

/-- the same URL as it is asked for: without its fragment, and with a path if there is a host -/
def asked (u : Url) : Url :=
  { u with
    fragment := none
    path := if u.host.isSome && u.path = .segments [] then .segments [[]] else u.path }

/-- add names and values to the query -/
def addQuery (u : Url) (pairs : List (String × String)) : Url :=
  let before := match u.query with
    | some (c :: cs) => c :: cs ++ ['&']
    | _ => []
  { u with query := some (before ++ formPairs pairs) }

end Url

end TenantGateway
