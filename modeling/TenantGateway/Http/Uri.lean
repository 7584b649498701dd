/-
Request targets.

A target is a path with an optional query, the asterisk, a URI with scheme and authority, or an authority alone. Only the path
and the query are kept, as they were written; a fragment is dropped.
-/
import TenantGateway.Text.Search

namespace TenantGateway

/-- the path and the query of a request target -/
structure Uri where
  path : String
  query : Option String
  deriving DecidableEq, Repr

namespace Uri

open Text

/-- the longest target, in bytes -/
def maxLength : Nat := 65534

/-- the characters that may stand in a path -/
def isPathChar (c : Char) : Bool :=
  let n := c.toNat
  n = 0x21 || n = 0x22 || (0x24 ≤ n && n ≤ 0x3B) || n = 0x3D || (0x40 ≤ n && n ≤ 0x5F) || (0x61 ≤ n && n ≤ 0x7E)
    || 0x80 ≤ n

/-- the characters that may stand in a query -/
def isQueryChar (c : Char) : Bool :=
  let n := c.toNat
  n = 0x21 || (0x24 ≤ n && n ≤ 0x3B) || n = 0x3D || (0x3F ≤ n && n ≤ 0x7E) || 0x80 ≤ n

/-- the characters of an authority, the percent sign apart -/
def isAuthorityChar (c : Char) : Bool :=
  c.isAlphanum || "!$&'()*+,-.:;=@[]_~".toList.contains c

/-- what has been seen of an authority -/
structure AuthorityScan where
  colons : Nat := 0
  opened : Bool := false
  closed : Bool := false
  percent : Bool := false
  last : Option Char := none

/-- one more character of an authority -/
def AuthorityScan.step (s : AuthorityScan) (c : Char) : Option AuthorityScan :=
  let s' := { s with last := some c }
  if c = ':' then if s.colons ≥ 8 then none else some { s' with colons := s.colons + 1 }
  else if c = '[' then if s.percent || s.opened then none else some { s' with opened := true }
  else if c = ']' then
    if !s.opened || s.closed then none else some { s' with closed := true, colons := 0, percent := false }
  else if c = '@' then some { s' with colons := 0, percent := false }
  else if c = '%' then some { s' with percent := true }
  else if isAuthorityChar c then some s'
  else none

/-- host, number and user data: brackets closed, at most one colon outside them, no percent sign in the host -/
def isAuthority (cs : List Char) : Bool :=
  match cs.foldlM AuthorityScan.step {} with
  | some s => s.opened = s.closed && s.colons ≤ 1 && s.last ≠ some '@' && !s.percent
  | none => false

/-- a path and a query, where the whole may be followed by a fragment; an empty path reads as a slash -/
def ofPath? (cs : List Char) : Option Uri :=
  let (target, query) := cutAt '?' (before '#' cs)
  if target.all isPathChar && (query.getD []).all isQueryChar then
    some ⟨if target.isEmpty then "/" else String.ofList target, query.map String.ofList⟩
  else none

def isSchemeChar (c : Char) : Bool :=
  c.isAlphanum || c = '+' || c = '-' || c = '.' || c = '~'

/-- the longest scheme -/
def maxScheme : Nat := 64

/-- whether a scheme and `://` come first, and what follows them -/
def afterScheme (cs : List Char) : Option (List Char × List Char) :=
  let scheme := cs.takeWhile isSchemeChar
  match cs.drop scheme.length with
  | ':' :: '/' :: '/' :: rest => some (scheme, rest)
  | _ => none

/-- where an authority ends -/
def endsAuthority (c : Char) : Bool :=
  c = '/' || c = '?' || c = '#'

def parse (s : String) : Option Uri :=
  if maxLength < s.utf8ByteSize then none
  else
    match s.toList with
    | [] => none
    | ['*'] => some ⟨"*", none⟩
    | '/' :: rest => ofPath? ('/' :: rest)
    | cs =>
      match afterScheme cs with
      | some (scheme, rest) =>
        let authority := rest.takeWhile (!endsAuthority ·)
        if maxScheme < scheme.length || authority.isEmpty || !isAuthority authority then none
        else ofPath? (rest.drop authority.length)
      | none => if isAuthority cs then some ⟨"", none⟩ else none

/-- the query with its question mark, nothing where there is none -/
def queryPart (u : Uri) : String :=
  match u.query with
  | some q => "?" ++ q
  | none => ""

end Uri

end TenantGateway
