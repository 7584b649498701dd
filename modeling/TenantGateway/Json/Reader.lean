/-
Reading JSON.

`Json.read wanted` reads a whole document. Members of the outermost object whose name is not `wanted` are only stepped over:
they have to be well formed, but their escapes may name half a surrogate pair, their numbers may be of any size and their
nesting may be of any depth. Everything that is read is held to those limits.
-/
import TenantGateway.Decimal.Double
import TenantGateway.Json.Value

namespace TenantGateway.Json

open Text Decimal

/-- how closely a value is looked at -/
inductive Care where
  | read
  | stepOver
  deriving DecidableEq, Repr

/-- how deep arrays and objects may be nested in what is read -/
def nestingLimit : Nat := 127

def isSpace (c : Char) : Bool :=
  c = ' ' || c = '\t' || c = '\n' || c = '\r'

def skipSpace (cs : List Char) : List Char :=
  cs.dropWhile isSpace

/-- four hexadecimal digits -/
def readUnit : List Char → Option (Nat × List Char)
  | a :: b :: c :: d :: rest => do
    let a ← hexValue? a
    let b ← hexValue? b
    let c ← hexValue? c
    let d ← hexValue? d
    return (a * 4096 + b * 256 + c * 16 + d, rest)
  | _ => none

def isHighSurrogate (n : Nat) : Bool := 0xD800 ≤ n && n ≤ 0xDBFF

def isLowSurrogate (n : Nat) : Bool := 0xDC00 ≤ n && n ≤ 0xDFFF

/-- what follows a backslash: the character it stands for, nothing for half a pair that is stepped over -/
def readEscape (care : Care) : List Char → Option (List Char × List Char)
  | '"' :: rest => some (['"'], rest)
  | '\\' :: rest => some (['\\'], rest)
  | '/' :: rest => some (['/'], rest)
  | 'b' :: rest => some ([Char.ofNat 8], rest)
  | 'f' :: rest => some ([Char.ofNat 12], rest)
  | 'n' :: rest => some (['\n'], rest)
  | 'r' :: rest => some (['\r'], rest)
  | 't' :: rest => some (['\t'], rest)
  | 'u' :: rest => do
    let (unit, rest) ← readUnit rest
    if care = .stepOver then return ([], rest)
    if isHighSurrogate unit then
      match rest with
      | '\\' :: 'u' :: rest =>
        let (low, rest) ← readUnit rest
        if isLowSurrogate low then
          return ([Char.ofNat (0x10000 + (unit - 0xD800) * 0x400 + (low - 0xDC00))], rest)
        else none
      | _ => none
    else if isLowSurrogate unit then none
    else return ([Char.ofNat unit], rest)
  | _ => none

/-- the rest of a string, its opening quote taken; `fuel` bounds the characters -/
def readString (care : Care) : (fuel : Nat) → List Char → Option (List Char × List Char)
  | 0, _ => none
  | _, [] => none
  | _, '"' :: rest => some ([], rest)
  | fuel + 1, '\\' :: rest => do
    let (head, rest) ← readEscape care rest
    let (tail, rest) ← readString care fuel rest
    return (head ++ tail, rest)
  | fuel + 1, c :: rest => do
    if c.toNat < 0x20 then none
    let (tail, rest) ← readString care fuel rest
    return (c :: tail, rest)

/-- the parts of a number as written -/
structure NumberParts where
  negative : Bool
  whole : List Char
  fraction : List Char
  exponent : Int
  /-- a number written with neither point nor exponent -/
  integral : Bool
  deriving Repr

/-- digits as a number -/
def digitsValue (cs : List Char) : Nat :=
  cs.foldl (fun n c => n * 10 + (c.toNat - '0'.toNat)) 0

/-- a sign, a whole part without leading zero, an optional fraction and an optional exponent -/
def readNumber (cs : List Char) : Option (NumberParts × List Char) := do
  let (negative, cs) := match cs with
    | '-' :: rest => (true, rest)
    | _ => (false, cs)
  let whole := cs.takeWhile Char.isDigit
  let cs := cs.dropWhile Char.isDigit
  if whole.isEmpty || (whole.length > 1 && whole.head? = some '0') then none
  let (fraction, cs, pointed) ← match cs with
    | '.' :: rest =>
      let digits := rest.takeWhile Char.isDigit
      if digits.isEmpty then none else some (digits, rest.dropWhile Char.isDigit, true)
    | _ => some ([], cs, false)
  let (exponent, cs, scaled) ← match cs with
    | 'e' :: rest | 'E' :: rest =>
      let (sign, rest) := match rest with
        | '-' :: rest => ((-1 : Int), rest)
        | '+' :: rest => (1, rest)
        | _ => (1, rest)
      let digits := rest.takeWhile Char.isDigit
      if digits.isEmpty then none else some (sign * digitsValue digits, rest.dropWhile Char.isDigit, true)
    | _ => some (0, cs, false)
  return ({ negative, whole, fraction, exponent, integral := !pointed && !scaled }, cs)

/-- the leading digits as a number, as long as it fits into 64 bits, after those that make `n`; and how many are left -/
def significand : (n : Nat) → List Char → Nat × Nat
  | n, [] => (n, 0)
  | n, c :: rest =>
    let next := n * 10 + (c.toNat - '0'.toNat)
    if next ≤ 0xFFFFFFFFFFFFFFFF then significand next rest else (n, rest.length + 1)

namespace NumberParts

/-- the greatest power of ten that is a finite double -/
def maxPower : Int := 308

/-- whether the number is read as a finite double. It is a significand of 64 bits times a power of ten; both are rounded to
doubles and their product once more, so numbers close to the largest double may be refused. -/
def isFinite (p : NumberParts) : Bool :=
  let (whole, beyond) := significand 0 p.whole
  let (digits, left) := significand whole p.fraction
  let exponent := p.exponent + beyond - (p.fraction.length - left : Nat)
  if digits = 0 || exponent < 0 then true
  else if maxPower < exponent then false
  else
    match Double.nearest? digits 1, Double.nearest? (Nat.pow 10 exponent.toNat) 1 with
    | some d, some power => (d.product? power).isSome
    | _, _ => false

end NumberParts

/-- the three words -/
def readWord : List Char → Option (Json × List Char)
  | 'n' :: 'u' :: 'l' :: 'l' :: rest => some (.null, rest)
  | 't' :: 'r' :: 'u' :: 'e' :: rest => some (.flag true, rest)
  | 'f' :: 'a' :: 'l' :: 's' :: 'e' :: rest => some (.flag false, rest)
  | _ => none

mutual

/-- one value; `depth` is how many levels of nesting are left, `fuel` bounds the characters and the levels -/
def readValue (care : Care) : (fuel depth : Nat) → List Char → Option (Json × List Char)
  | 0, _, _ => none
  | fuel + 1, depth, cs =>
    match skipSpace cs with
    | [] => none
    | '"' :: rest => do
      let (value, rest) ← readString care (rest.length + 1) rest
      return (.text value, rest)
    | '[' :: rest =>
      if care = .read ∧ depth = 0 then none
      else
        match skipSpace rest with
        | ']' :: rest => some (.array [], rest)
        | rest => do
          let (items, rest) ← readItems care fuel (depth - 1) rest
          return (.array items, rest)
    | '\x7b' :: rest =>
      if care = .read ∧ depth = 0 then none
      else
        match skipSpace rest with
        | '\x7d' :: rest => some (.object [], rest)
        | rest => do
          let (members, rest) ← readMembers care (fun _ => care) fuel (depth - 1) rest
          return (.object members, rest)
    | c :: rest =>
      if c = '-' || c.isDigit then do
        let (parts, after) ← readNumber (c :: rest)
        if care = .read ∧ !parts.isFinite then none
        return (.number ((c :: rest).take ((c :: rest).length - after.length)), after)
      else readWord (c :: rest)

/-- the items of an array that has at least one, up to and with the closing bracket -/
def readItems (care : Care) : (fuel depth : Nat) → List Char → Option (List Json × List Char)
  | 0, _, _ => none
  | fuel + 1, depth, cs => do
    let (item, rest) ← readValue care fuel depth cs
    match skipSpace rest with
    | ',' :: rest =>
      let (items, rest) ← readItems care fuel depth rest
      return (item :: items, rest)
    | ']' :: rest => return ([item], rest)
    | _ => none

/-- the members of an object that has at least one, up to and with the closing brace; `names` is the care for their names -/
def readMembers (names : Care) (care : List Char → Care) :
    (fuel depth : Nat) → List Char → Option (List (List Char × Json) × List Char)
  | 0, _, _ => none
  | fuel + 1, depth, cs =>
    match skipSpace cs with
    | '"' :: rest => do
      let (key, rest) ← readString names (rest.length + 1) rest
      match skipSpace rest with
      | ':' :: rest =>
        let (value, rest) ← readValue (care key) fuel depth rest
        match skipSpace rest with
        | ',' :: rest =>
          let (members, rest) ← readMembers names care fuel depth rest
          return ((key, value) :: members, rest)
        | '\x7d' :: rest => return ([(key, value)], rest)
        | _ => none
      | _ => none
    | _ => none

end

/-- the outermost value; of an object, members that are not wanted are stepped over -/
def readOutermost (wanted : List Char → Bool) (fuel : Nat) (cs : List Char) : Option (Json × List Char) :=
  match skipSpace cs with
  | '\x7b' :: rest =>
    match skipSpace rest with
    | '\x7d' :: rest => some (.object [], rest)
    | rest => do
      let (members, rest) ← readMembers .read (fun key => if wanted key then .read else .stepOver) fuel
        (nestingLimit - 1) rest
      return (.object members, rest)
  | _ => readValue .read fuel nestingLimit cs

/-- the whole document, with nothing but blanks after its value -/
def read (wanted : List Char → Bool) (cs : List Char) : Option Json := do
  let (value, rest) ← readOutermost wanted (cs.length + 1) cs
  if (skipSpace rest).isEmpty then some value else none

/-- the whole document, every member wanted -/
def parse (cs : List Char) : Option Json :=
  read (fun _ => true) cs

/-- every value given to the member `key`, in order -/
def valuesOf (members : List (List Char × Json)) (key : List Char) : List Json :=
  members.filterMap fun (k, v) => if k = key then some v else none

end TenantGateway.Json
