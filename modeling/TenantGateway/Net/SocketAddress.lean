/-
Socket addresses: an IPv4 or IPv6 address with the number of the socket, as `1.2.3.4:80` or `[::1]:80`.

An IPv6 address may have a scope. It is written with the longest run of zero groups, the first of several, left out, and
with the last four bytes in decimal if it stands for an IPv4 address.
-/
import TenantGateway.Text.Hex

namespace TenantGateway

open Text

inductive SocketAddress where
  | v4 (octets : List Nat) (portNumber : Nat)
  | v6 (groups : List Nat) (scope portNumber : Nat)
  deriving DecidableEq, Repr

namespace SocketAddress

/-- the leading digits of a base and what follows them -/
def takeDigits (base : Nat) (cs : List Char) : List Nat × List Char :=
  match cs with
  | [] => ([], [])
  | c :: rest =>
    match hexValue? c with
    | some d =>
      if d < base then
        let (ds, rest) := takeDigits base rest
        (d :: ds, rest)
      else ([], cs)
    | none => ([], cs)

/-- a number of all leading digits, at most `most` of them if that is given, not beyond `bound` -/
def readNumber (base : Nat) (most : Option Nat) (bound : Nat) (padded : Bool) (cs : List Char) :
    Option (Nat × List Char) :=
  let (ds, rest) := takeDigits base cs
  let n := ds.foldl (fun n d => n * base + d) 0
  if ds.isEmpty || most.any (· < ds.length) || bound < n then none
  else if !padded && ds.length > 1 && ds.head? = some 0 then none
  else some (n, rest)

/-- a given character and what follows it -/
def take (c : Char) : List Char → Option (List Char)
  | d :: rest => if c = d then some rest else none
  | [] => none

/-- four decimal numbers below 256 without leading zeros, with points between them -/
def readV4 (cs : List Char) : Option (List Nat × List Char) := do
  let octet := readNumber 10 (some 3) 255 false
  let (a, cs) ← octet cs
  let (b, cs) ← octet (← take '.' cs)
  let (c, cs) ← octet (← take '.' cs)
  let (d, cs) ← octet (← take '.' cs)
  return ([a, b, c, d], cs)

/-- up to `limit` groups of hexadecimal digits, the last two perhaps as an IPv4 address, which is told as well -/
def readGroups : (limit : Nat) → (first : Bool) → List Char → List Nat × Bool × List Char
  | 0, _, cs => ([], false, cs)
  | limit + 1, first, cs =>
    let after := if first then some cs else take ':' cs
    let dotted := if 0 < limit then after.bind readV4 else none
    match dotted, after.bind (readNumber 16 (some 4) 0xFFFF true) with
    | some ([a, b, c, d], rest), _ => ([a * 256 + b, c * 256 + d], true, rest)
    | _, some (group, rest) =>
      let (groups, dotted, rest) := readGroups limit false rest
      (group :: groups, dotted, rest)
    | _, none => ([], false, cs)

/-- eight groups, or fewer around a `::` -/
def readV6 (cs : List Char) : Option (List Nat × List Char) := do
  let (head, dotted, rest) := readGroups 8 true cs
  if head.length = 8 then return (head, rest)
  if dotted then none
  let rest ← take ':' (← take ':' rest)
  let (tail, _, rest) := readGroups (7 - head.length) true rest
  return (head ++ List.replicate (8 - head.length - tail.length) 0 ++ tail, rest)

/-- a colon and the number of the socket -/
def readPort (cs : List Char) : Option (Nat × List Char) := do
  readNumber 10 none 65535 true (← take ':' cs)

/-- a percent sign and a scope, zero if there is none -/
def readScope (cs : List Char) : Nat × List Char :=
  ((take '%' cs).bind (readNumber 10 none 0xFFFFFFFF true)).getD (0, cs)

def parseV4 (cs : List Char) : Option (SocketAddress × List Char) := do
  let (octets, cs) ← readV4 cs
  let (portNumber, cs) ← readPort cs
  return (.v4 octets portNumber, cs)

def parseV6 (cs : List Char) : Option (SocketAddress × List Char) := do
  let (groups, cs) ← readV6 (← take '[' cs)
  let (scope, cs) := readScope cs
  let (portNumber, cs) ← readPort (← take ']' cs)
  return (.v6 groups scope portNumber, cs)

/-- the address a text is, if it is one -/
def parse (s : String) : Option SocketAddress := do
  let (address, rest) ← (parseV4 s.toList).or (parseV6 s.toList)
  if rest.isEmpty then some address else none

/-- where the first longest run of zeros starts, and its length -/
def longestZeros (groups : List Nat) : Nat × Nat :=
  let step (acc : Nat × (Nat × Nat) × (Nat × Nat)) (g : Nat) : Nat × (Nat × Nat) × (Nat × Nat) :=
    let (i, current, longest) := acc
    if g = 0 then
      let current := (if current.2 = 0 then i else current.1, current.2 + 1)
      (i + 1, current, if longest.2 < current.2 then current else longest)
    else (i + 1, (0, 0), longest)
  (groups.foldl step (0, (0, 0), (0, 0))).2.2

def renderGroups (groups : List Nat) : List Char :=
  ((groups.map hex).intersperse [':']).flatten

def renderV4 (octets : List Nat) : List Char :=
  ((octets.map fun n => (toString n).toList).intersperse ['.']).flatten

/-- the groups with their longest run of zeros left out -/
def renderShortest (groups : List Nat) : List Char :=
  let (start, count) := longestZeros groups
  if count > 1 then renderGroups (groups.take start) ++ "::".toList ++ renderGroups (groups.drop (start + count))
  else renderGroups groups

def renderV6 (groups : List Nat) : List Char :=
  match groups with
  | [0, 0, 0, 0, 0, 0xFFFF, a, b] => "::ffff:".toList ++ renderV4 [a / 256, a % 256, b / 256, b % 256]
  | _ => renderShortest groups

/-- the usual text of an address -/
def render : SocketAddress → String
  | .v4 octets portNumber => String.ofList (renderV4 octets) ++ ":" ++ toString portNumber
  | .v6 groups scope portNumber =>
    let scope := if scope = 0 then "" else "%" ++ toString scope
    "[" ++ String.ofList (renderV6 groups) ++ scope ++ "]:" ++ toString portNumber

end SocketAddress

end TenantGateway
