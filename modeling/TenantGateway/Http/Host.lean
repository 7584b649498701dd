/-
Hosts of URLs: domain names, IPv4 and IPv6 addresses.

`Host.parse` gives the usual text of a host, which is in ASCII. A domain whose last label is a number has to be an IPv4 address.
-/
import TenantGateway.Domain.Ascii
import TenantGateway.Net.SocketAddress
import TenantGateway.Text.Percent

namespace TenantGateway.Host

open Text

/-- the characters no host may hold -/
def isForbidden (c : Char) : Bool :=
  c.toNat = 0 || "\t\n\r #/:<>?@[\\]^|".toList.contains c

/-- the characters no domain may hold -/
def isForbiddenInDomain (c : Char) : Bool :=
  isForbidden c || c.toNat ≤ 0x1F || c = '%' || c.toNat = 0x7F

/-- a part of an IPv4 address: decimal, octal after a zero, or hexadecimal after `0x` -/
def readPart (cs : List Char) : Option Nat :=
  let number (base : Nat) (cs : List Char) : Option Nat :=
    cs.foldlM (fun n c => do
      let d ← hexValue? c
      if d < base then some (n * base + d) else none) 0
  match cs with
  | [] => none
  | '0' :: 'x' :: rest | '0' :: 'X' :: rest => number 16 rest
  | '0' :: rest => number 8 rest
  | cs => number 10 cs

/-- the labels of a domain, an empty one at the end left out -/
def labels (cs : List Char) : List (List Char) :=
  let parts := splitOn '.' cs
  if parts.length > 1 && parts.getLast? = some [] then parts.dropLast else parts

/-- whether the last label is a number -/
def endsInNumber (cs : List Char) : Bool :=
  match (labels cs).getLast? with
  | some label => !label.isEmpty && (label.all Char.isDigit || (readPart label).isSome)
  | none => false

/-- the address whose parts are given; the last part fills the bytes that are left -/
def readV4 (cs : List Char) : Option (List Nat) := do
  let parts ← (labels cs).mapM readPart
  let last ← parts.getLast?
  let head := parts.dropLast
  if parts.length > 4 || head.any (255 < ·) || Nat.pow 256 (4 - head.length) ≤ last then none
  let tail := (List.range (4 - head.length)).reverse.map fun i => last / Nat.pow 256 i % 256
  return head ++ tail

/-- an IPv6 address without its brackets -/
def readV6 (cs : List Char) : Option (List Nat) :=
  match SocketAddress.readV6 cs with
  | some (groups, []) => some groups
  | _ => none

def renderV6 (groups : List Nat) : List Char :=
  '[' :: (SocketAddress.renderShortest groups ++ [']'])

/-- a host of a URL whose scheme asks for a domain or an address -/
def parse (cs : List Char) : Option (List Char) :=
  match cs with
  | '[' :: rest => if rest.getLast? = some ']' then (readV6 rest.dropLast).map renderV6 else none
  | cs => do
    let domain ← Domain.toAscii? (← percentDecodeText? cs)
    if domain.isEmpty || domain.any isForbiddenInDomain then none
    else if endsInNumber domain then (readV4 domain).map SocketAddress.renderV4
    else some domain

/-- a host of any other URL, whose name means nothing here -/
def parseOther (cs : List Char) : Option (List Char) :=
  match cs with
  | '[' :: rest => if rest.getLast? = some ']' then (readV6 rest.dropLast).map renderV6 else none
  | cs =>
    if cs.any isForbidden then none
    else some (percentEncode (fun c => c.toNat < 0x20 || 0x7E < c.toNat) cs)

end TenantGateway.Host
